import CommandDocs.Proofs.Text.CodePoint
import CommandDocs.Text.Basic
import CommandDocs.Text.Lowercase
import Mathlib.Data.List.TakeWhile

/-!
# Lower case of the beginning of a text

Every code point but one has the same lower case form wherever it stands. A capital sigma has
its final form at the end of a word and the usual one inside of it. A beginning of a text that
stops at such a sigma ends a word there, while the text may go on with the word. In this case the
lower case form of the beginning is no beginning of that of the text, and in all others it is.
-/

namespace CommandDocs

/-- The letter whose lower case form depends on its place. -/
def CodePoint.capitalSigma : CodePoint := .ofValue 0x3A3

/-- The letter is known by its number. -/
theorem CodePoint.eq_capitalSigma {c : CodePoint} (h : c.value = 0x3A3) : c = capitalSigma := by
  rw [← ofValue_value c, h, capitalSigma]

/-- Inside of a word the letter has its usual form. -/
theorem CodePoint.lower_capitalSigma : capitalSigma.lower = [.ofValue 0x3C3] := by
  decide +kernel

/-- What is skipped stands in the table. -/
theorem CodePoint.isCaseIgnorable_eq (c : CodePoint) : c.isCaseIgnorable =
    CaseTable.caseIgnorable.toList.any fun range => range.1 ≤ c.value && c.value ≤ range.2 := by
  rw [isCaseIgnorable, Array.any_toList]

namespace Text

variable {before word behind rest : Text} {c : CodePoint}

/-! ### The next letter -/

/-- A code point that is not skipped is the next one. -/
theorem meetsCased_cons (h : c.isCaseIgnorable = false) : meetsCased (c :: rest) = c.isCased := by
  rw [meetsCased, List.dropWhile_cons_of_neg (Bool.not_eq_true _ ▸ h)]

/-- Behind code points that are skipped the first one that is not stands in what follows. -/
theorem meetsCased_append_of_ignorable (h : ∀ c ∈ word, c.isCaseIgnorable = true)
    (behind : Text) : meetsCased (word ++ behind) = meetsCased behind := by
  rw [meetsCased, List.dropWhile_append_of_pos h, meetsCased]

/-- A code point that is not skipped hides what follows. -/
theorem meetsCased_append (h : ¬∀ c ∈ word, c.isCaseIgnorable = true) (behind : Text) :
    meetsCased (word ++ behind) = meetsCased word := by
  have hne : word.dropWhile CodePoint.isCaseIgnorable ≠ [] := by
    rw [ne_eq, List.dropWhile_eq_nil_iff]
    exact h
  obtain ⟨c, rest, hrest⟩ := List.exists_cons_of_ne_nil hne
  rw [meetsCased, List.dropWhile_append, hrest, meetsCased, hrest]
  rfl

/-- Where everything is skipped no letter is met. -/
theorem meetsCased_of_ignorable (h : ∀ c ∈ word, c.isCaseIgnorable = true) :
    meetsCased word = false := by
  have hall := meetsCased_append_of_ignorable h []
  rw [List.append_nil] at hall
  exact hall

/-! ### One code point -/

/-- The lower case form of a code point between two texts, the first of them in reverse. -/
def lowerBetween (before : Text) (c : CodePoint) (rest : Text) : Text :=
  if c.value = 0x3A3 && meetsCased before && !meetsCased rest then [.ofValue 0x3C2] else c.lower

/-- The lower case form of a text is that of its first code point and that of the others. -/
theorem lowerBehind_cons (before : Text) (c : CodePoint) (rest : Text) :
    lowerBehind before (c :: rest) =
      lowerBetween before c rest ++ lowerBehind (c :: before) rest := rfl

/-- The form is the same where the next letter is met or not in the same way. -/
theorem lowerBetween_congr {rest' : Text}
    (h : c.value = 0x3A3 → meetsCased before = true → meetsCased rest = meetsCased rest') :
    lowerBetween before c rest = lowerBetween before c rest' := by
  rw [lowerBetween, lowerBetween]
  by_cases hc : c.value = 0x3A3
  · by_cases hbefore : meetsCased before = true
    · rw [h hc hbefore]
    · rw [Bool.not_eq_true] at hbefore
      simp [hbefore]
  · simp [hc]

/-- At the end of a word a capital sigma has its final form. -/
theorem lowerBetween_final (hbefore : meetsCased before = true) (hrest : meetsCased rest = false) :
    lowerBetween before .capitalSigma rest = [.ofValue 0x3C2] := by
  rw [lowerBetween, hbefore, hrest]
  rfl

/-- Inside of a word it has the usual form. -/
theorem lowerBetween_inside (hrest : meetsCased rest = true) :
    lowerBetween before .capitalSigma rest = [.ofValue 0x3C3] := by
  rw [lowerBetween, hrest, Bool.not_true, Bool.and_false, if_neg Bool.false_ne_true,
    CodePoint.lower_capitalSigma]

/-! ### Beginnings of texts -/

/-- Apart from what is skipped the second text ends with a capital sigma behind a letter. The
first text, in reverse, stands in front of it. -/
def EndsInSigma (before word : Text) : Prop :=
  ∃ front marks, word = front ++ CodePoint.capitalSigma :: marks ∧
    (∀ c ∈ marks, c.isCaseIgnorable = true) ∧ meetsCased (front.reverse ++ before) = true

/-- The first text stops at a capital sigma in a word that goes on in the second text. -/
def StopsAtSigma (word behind : Text) : Prop :=
  EndsInSigma [] word ∧ meetsCased behind = true

/-- The sigma is the first code point or stands among the others. -/
theorem endsInSigma_cons : EndsInSigma before (c :: rest) ↔
    (c = .capitalSigma ∧ (∀ c ∈ rest, c.isCaseIgnorable = true) ∧ meetsCased before = true) ∨
      EndsInSigma (c :: before) rest := by
  constructor
  · rintro ⟨front, marks, hword, hmarks, hfront⟩
    cases front with
    | nil =>
      obtain ⟨rfl, rfl⟩ := List.cons.inj hword
      exact Or.inl ⟨rfl, hmarks, hfront⟩
    | cons d front =>
      obtain ⟨rfl, hrest⟩ := List.cons.inj hword
      rw [List.reverse_cons, List.append_assoc] at hfront
      exact Or.inr ⟨front, marks, hrest, hmarks, hfront⟩
  · rintro (⟨rfl, hmarks, hbefore⟩ | ⟨front, marks, rfl, hmarks, hfront⟩)
    · exact ⟨[], rest, rfl, hmarks, hbefore⟩
    · refine ⟨c :: front, marks, rfl, hmarks, ?_⟩
      rw [List.reverse_cons, List.append_assoc]
      exact hfront

/-- A text without capital sigmas ends in none. -/
theorem not_endsInSigma (h : CodePoint.capitalSigma ∉ word) : ¬EndsInSigma before word := by
  rintro ⟨front, marks, rfl, -, -⟩
  exact h (List.mem_append_right _ List.mem_cons_self)

/-- The lower case form of a beginning is a beginning of the lower case form, unless the beginning
stops at a sigma inside of a word. The induction is on the beginning; at each code point either the
forms agree, or this is the sigma. -/
theorem lowerBehind_prefix_iff (before word behind : Text) :
    lowerBehind before word <+: lowerBehind before (word ++ behind) ↔
      ¬(EndsInSigma before word ∧ meetsCased behind = true) := by
  induction word generalizing before with
  | nil =>
    refine iff_of_true (List.nil_prefix) ?_
    rintro ⟨⟨front, marks, hword, -, -⟩, -⟩
    exact List.append_ne_nil_of_right_ne_nil front (List.cons_ne_nil _ _) hword.symm
  | cons c rest ih =>
    rw [List.cons_append, lowerBehind_cons, lowerBehind_cons, endsInSigma_cons]
    by_cases hstop : (c = .capitalSigma ∧ (∀ c ∈ rest, c.isCaseIgnorable = true) ∧
      meetsCased before = true) ∧ meetsCased behind = true
    · obtain ⟨⟨rfl, hmarks, hbefore⟩, hbehind⟩ := hstop
      have hwhole : meetsCased (rest ++ behind) = true := by
        rw [meetsCased_append_of_ignorable hmarks, hbehind]
      refine iff_of_false (fun hprefix => ?_) fun hnone => hnone ⟨Or.inl ⟨rfl, hmarks, hbefore⟩,
        hbehind⟩
      rw [lowerBetween_final hbefore (meetsCased_of_ignorable hmarks), lowerBetween_inside hwhole]
        at hprefix
      have hforms : CodePoint.ofValue 0x3C2 = .ofValue 0x3C3 := (List.cons_prefix_cons.mp hprefix).1
      exact absurd hforms (by decide)
    · have hform : lowerBetween before c rest = lowerBetween before c (rest ++ behind) := by
        refine lowerBetween_congr fun hc hbefore => ?_
        by_cases hmarks : ∀ c ∈ rest, c.isCaseIgnorable = true
        · have hbehind : meetsCased behind = false := by
            rw [← Bool.not_eq_true]
            exact fun h => hstop ⟨⟨CodePoint.eq_capitalSigma hc, hmarks, hbefore⟩, h⟩
          rw [meetsCased_append_of_ignorable hmarks, hbehind, meetsCased_of_ignorable hmarks]
        · rw [meetsCased_append hmarks]
      rw [← hform, List.prefix_append_right_inj, ih]
      refine not_congr (and_congr_left fun hbehind => ?_)
      exact (or_iff_right fun h => hstop ⟨h, hbehind⟩).symm

/-- In lower case a beginning stays one, unless it stops at a sigma inside of a word. -/
theorem startsWith_lower_iff (word behind : Text) :
    (lower (word ++ behind)).startsWith (lower word) = true ↔ ¬StopsAtSigma word behind := by
  rw [startsWith, List.isPrefixOf_iff_prefix]
  exact lowerBehind_prefix_iff [] word behind

end Text

end CommandDocs
