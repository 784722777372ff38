import CommandDocs.Proofs.Json.RoundTrip

/-!
# Values with other text behind them

No value of JSON goes on with an equality sign. So the reader gives a value and what stands behind
it also when an equality sign and more text stand at the end, and a text that was JSON is none any
more.
-/

namespace CommandDocs.Json

variable {α β : Type} {tail t : Text}

/-- A text that begins with an equality sign. -/
def IsForeign (tail : Text) : Prop := ∃ more, tail = .scalar '=' :: more

/-- A reading with more text behind what is left. -/
def extend (tail : Text) (reading : α × Text) : α × Text := (reading.1, reading.2 ++ tail)

/-- What a reader gives for a text it gives for the text with the tail behind it, and leaves the
tail. -/
def GoesOver (tail : Text) (reader : Text → Except JsonError (α × Text)) : Prop :=
  ∀ t reading, reader t = .ok reading → reader (t ++ tail) = .ok (extend tail reading)

/-- What begins the longer text begins the text, unless it is the sign. -/
theorem exists_of_append_foreign (h : IsForeign tail) {c : CodePoint} {rest : Text}
    (hlonger : t ++ tail = c :: rest) (hc : c ≠ .scalar '=') : ∃ more, t = c :: more := by
  obtain ⟨more, rfl⟩ := h
  cases t with
  | nil =>
    cases hlonger
    exact absurd rfl hc
  | cons d t =>
    cases hlonger
    exact ⟨t, rfl⟩

/-! ### Numbers and words -/

/-- What is taken from the beginning of a text ends before the tail. -/
theorem takeWhile_append_foreign (h : IsForeign tail) {p : CodePoint → Bool}
    (hp : p (.scalar '=') = false) (t : Text) : (t ++ tail).takeWhile p = t.takeWhile p := by
  obtain ⟨more, rfl⟩ := h
  induction t with
  | nil => rw [List.nil_append, List.takeWhile_cons, hp]; rfl
  | cons c t ih =>
    rw [List.cons_append, List.takeWhile_cons, List.takeWhile_cons, ih]

/-- What is dropped there ends before the tail, too. -/
theorem dropWhile_append_foreign (h : IsForeign tail) {p : CodePoint → Bool}
    (hp : p (.scalar '=') = false) (t : Text) :
    (t ++ tail).dropWhile p = t.dropWhile p ++ tail := by
  obtain ⟨more, rfl⟩ := h
  induction t with
  | nil => rw [List.nil_append, List.dropWhile_cons, hp]; rfl
  | cons c t ih =>
    rw [List.cons_append, List.dropWhile_cons, List.dropWhile_cons, ih]
    split <;> rfl

/-- The tail is no blank. -/
theorem skipGap_append_foreign (h : IsForeign tail) (t : Text) :
    skipGap (t ++ tail) = skipGap t ++ tail := dropWhile_append_foreign h rfl t

/-- It is no digit. -/
theorem spanDigits_append_foreign (h : IsForeign tail) (t : Text) :
    spanDigits (t ++ tail) = extend tail (spanDigits t) := by
  rw [spanDigits, takeWhile_append_foreign h rfl, dropWhile_append_foreign h rfl]
  rfl

/-- The digits before a point are the same. -/
theorem readWhole_append_foreign (h : IsForeign tail) (t : Text) :
    readWhole (t ++ tail) = (readWhole t).map (extend tail) := by
  have hspan := spanDigits_append_foreign h t
  rw [readWhole.eq_def t]
  split
  · rfl
  · rename_i hzero
    have hother : readWhole (t ++ tail) = if (spanDigits (t ++ tail)).1.isEmpty then none
        else some (spanDigits (t ++ tail)) := by
      rw [readWhole.eq_def]
      split
      · rename_i rest hfirst
        obtain ⟨more, hmore⟩ := exists_of_append_foreign h hfirst (by decide)
        exact absurd hmore (hzero more)
      · rfl
    rw [hother, hspan]
    generalize spanDigits t = found
    obtain ⟨digits, behind⟩ := found
    cases digits <;> rfl

/-- So is the fraction. -/
theorem readFraction_append_foreign (h : IsForeign tail) (t : Text) :
    readFraction (t ++ tail) = (readFraction t).map (extend tail) := by
  rw [readFraction.eq_def t]
  split
  · rename_i rest
    rw [List.cons_append, readFraction, spanDigits_append_foreign h]
    generalize spanDigits rest = found
    obtain ⟨digits, behind⟩ := found
    cases digits <;> rfl
  · rename_i hpoint
    rw [readFraction.eq_def]
    split
    · rename_i rest hfirst
      obtain ⟨more, hmore⟩ := exists_of_append_foreign h hfirst (by decide)
      exact absurd hmore (hpoint more)
    · rfl

/-- So is the sign of an exponent. -/
theorem readSign_append_foreign (h : IsForeign tail) (t : Text) :
    readSign (t ++ tail) = ((readSign t).1, (readSign t).2 ++ tail) := by
  rw [readSign.eq_def t]
  split
  · rfl
  · rfl
  · rename_i hminus hplus
    rw [readSign.eq_def]
    split
    · rename_i rest hfirst
      obtain ⟨more, hmore⟩ := exists_of_append_foreign h hfirst (by decide)
      exact absurd hmore (hminus more)
    · rename_i rest hfirst
      obtain ⟨more, hmore⟩ := exists_of_append_foreign h hfirst (by decide)
      exact absurd hmore (hplus more)
    · rfl

/-- So is an exponent. -/
theorem readExponent_append_foreign (h : IsForeign tail) (t : Text) :
    readExponent (t ++ tail) = (readExponent t).map fun found => (found.1, found.2 ++ tail) := by
  cases t with
  | nil =>
    obtain ⟨more, rfl⟩ := h
    rfl
  | cons c t =>
    cases c with
    | surrogate k => rfl
    | scalar mark =>
      rw [List.cons_append, readExponent, readExponent]
      split
      · rw [readSign_append_foreign h]
        dsimp only
        rw [spanDigits_append_foreign h]
        generalize spanDigits (readSign t).2 = found
        obtain ⟨digits, behind⟩ := found
        cases digits <;> rfl
      · rfl

/-- A number is the same, or is as little one. -/
theorem readMagnitude_append_foreign (h : IsForeign tail) (negative : Bool) (t : Text) :
    readMagnitude negative (t ++ tail) = (readMagnitude negative t).map (extend tail) := by
  rw [readMagnitude, readMagnitude, readWhole_append_foreign h]
  cases readWhole t with
  | none => rfl
  | some digits =>
    dsimp only [Option.map_some, extend]
    rw [readFraction_append_foreign h]
    cases readFraction digits.2 with
    | none =>
      dsimp only [Option.map_none]
      rw [readExponent_append_foreign h]
      cases readExponent digits.2 with
      | none =>
        dsimp only [Option.map_none]
        split <;> rfl
      | some power => rfl
    | some fraction =>
      dsimp only [Option.map_some, extend]
      rw [readExponent_append_foreign h]
      cases readExponent fraction.2 <;> rfl

/-- A word without the sign begins the longer text if it begins the text. -/
theorem dropWord?_append_foreign (h : IsForeign tail) {word : Text}
    (hword : CodePoint.scalar '=' ∉ word) (t : Text) :
    dropWord? word (t ++ tail) = (dropWord? word t).map (· ++ tail) := by
  obtain ⟨more, rfl⟩ := h
  have hbegins : word <+: t ++ .scalar '=' :: more ↔ word <+: t := by
    refine ⟨fun hprefix => ?_, fun hprefix => hprefix.trans (List.prefix_append _ _)⟩
    have hmark : t ++ [.scalar '='] <+: t ++ .scalar '=' :: more := by
      exact ⟨more, (List.append_cons t _ more).symm⟩
    rcases List.prefix_or_prefix_of_prefix hprefix hmark with hshort | hlong
    · rcases List.prefix_concat_iff.mp hshort with rfl | hbefore
      · simp at hword
      · exact hbefore
    · exact absurd (hlong.subset (by simp)) hword
  rw [dropWord?, dropWord?]
  by_cases hprefix : word <+: t
  · rw [if_pos (List.isPrefixOf_iff_prefix.mpr (hbegins.mpr hprefix)),
      if_pos (List.isPrefixOf_iff_prefix.mpr hprefix), Option.map_some,
      List.drop_append_of_le_length hprefix.length_le]
  · rw [if_neg fun h => hprefix (hbegins.mp (List.isPrefixOf_iff_prefix.mp h)),
      if_neg fun h => hprefix (List.isPrefixOf_iff_prefix.mp h), Option.map_none]

/-- A word or a number is the same, or is as little one. -/
theorem readAtom_append_foreign (h : IsForeign tail) (t : Text) :
    readAtom (t ++ tail) = (readAtom t).map (extend tail) := by
  have hfree : ∀ entry ∈ words, CodePoint.scalar '=' ∉ entry.1 := by decide
  have hwords : (words.findSome? fun entry =>
      (dropWord? entry.1 (t ++ tail)).map fun rest => (entry.2, rest)) =
        (words.findSome? fun entry =>
          (dropWord? entry.1 t).map fun rest => (entry.2, rest)).map (extend tail) := by
    generalize words = entries at hfree
    induction entries with
    | nil => rfl
    | cons entry entries ih =>
      rw [List.forall_mem_cons] at hfree
      rw [List.findSome?_cons, List.findSome?_cons, dropWord?_append_foreign h hfree.1]
      cases dropWord? entry.1 t with
      | none => exact ih hfree.2
      | some rest => rfl
  rw [readAtom.eq_def, hwords, readAtom.eq_def]
  cases words.findSome? fun entry => (dropWord? entry.1 t).map fun rest => (entry.2, rest) with
  | some reading => rfl
  | none =>
    dsimp only [Option.map_none]
    split
    · rename_i rest hfirst
      obtain ⟨more, rfl⟩ := exists_of_append_foreign h hfirst (by decide)
      cases hfirst
      exact readMagnitude_append_foreign h true more
    · rename_i hminus
      split
      · rename_i rest
        exact absurd rfl (hminus (rest ++ tail))
      · exact readMagnitude_append_foreign h false t

/-! ### Strings -/

/-- What is read with a character in front is read without it. -/
theorem exists_of_prepend {c : Character} {found : Except JsonError (List Character × Text)}
    {reading : List Character × Text} (h : prepend c found = .ok reading) :
    ∃ inner, found = .ok inner ∧ reading = (c :: inner.1, inner.2) := by
  cases found with
  | error e => cases h
  | ok inner =>
    cases h
    exact ⟨inner, rfl, rfl⟩

/-- The characters of a string end with its quote, whatever stands behind it. -/
theorem goesOver_readCharacters (tail : Text) : GoesOver tail readCharacters := by
  intro t
  induction t using readCharacters.induct with
  | case1 =>
    intro reading hread
    cases hread
  | case2 rest =>
    intro reading hread
    cases hread
    rfl
  | case3 a b c d rest hdigits =>
    intro reading hread
    rw [readCharacters, hdigits] at hread
    cases hread
  | case4 a b c d rest e hdigits ih =>
    intro reading hread
    rw [readCharacters, hdigits] at hread
    obtain ⟨inner, hinner, rfl⟩ := exists_of_prepend hread
    simp only [List.cons_append]
    rw [readCharacters, hdigits]
    dsimp only
    rw [ih inner hinner]
    rfl
  | case5 c rest hnumbered hescape =>
    intro reading hread
    rw [readCharacters.eq_4 c rest hnumbered, hescape] at hread
    cases hread
  | case6 c rest hnumbered e hescape ih =>
    intro reading hread
    rw [readCharacters.eq_4 c rest hnumbered, hescape] at hread
    obtain ⟨inner, hinner, rfl⟩ := exists_of_prepend hread
    have hletter : c ≠ .scalar 'u' := by
      rintro rfl
      cases hescape
    simp only [List.cons_append]
    rw [readCharacters.eq_4 c _ fun _ _ _ _ _ hc _ => hletter hc, hescape]
    dsimp only
    rw [ih inner hinner]
    rfl
  | case7 c rest hquote hnumbered hbackslash hcontrol =>
    intro reading hread
    rw [readCharacters.eq_5 c rest hquote hnumbered hbackslash, if_pos hcontrol] at hread
    cases hread
  | case8 c rest hquote hnumbered hbackslash hcontrol ih =>
    intro reading hread
    rw [readCharacters.eq_5 c rest hquote hnumbered hbackslash, if_neg hcontrol] at hread
    obtain ⟨inner, hinner, rfl⟩ := exists_of_prepend hread
    -- a backslash would have been the last character, and then no quote follows
    have hother : c ≠ .scalar '\\' := by
      intro hc
      cases rest with
      | nil => cases hinner
      | cons d rest => exact hbackslash d rest hc rfl
    rw [List.cons_append, readCharacters.eq_5 c _ hquote (fun _ _ _ _ _ hc _ => hother hc)
      (fun _ _ hc _ => hother hc), if_neg hcontrol, ih inner hinner]
    rfl

/-- So does the string. -/
theorem goesOver_readString (tail : Text) : GoesOver tail readString := by
  intro t reading hread
  rw [readString] at hread ⊢
  cases hcharacters : readCharacters t with
  | error e =>
    rw [hcharacters] at hread
    cases hread
  | ok found =>
    rw [hcharacters] at hread
    cases hread
    rw [goesOver_readCharacters tail t found hcharacters]
    rfl

/-! ### Arrays and objects -/

variable {readItem : Text → Except JsonError (Json × Text)}

/-- The items of an array end with its bracket. The longer text allows no fewer of them. -/
theorem readItems_append_foreign (h : IsForeign tail) (hitem : GoesOver tail readItem)
    {bound more : Nat} (hbound : bound ≤ more) {reading : List Json × Text}
    (hread : readItems readItem bound t = .ok reading) :
    readItems readItem more (t ++ tail) = .ok (extend tail reading) := by
  induction bound generalizing more t reading with
  | zero => cases hread
  | succ bound ih =>
    obtain ⟨more, rfl⟩ : ∃ k, more = k + 1 := ⟨more - 1, by omega⟩
    rw [readItems, bind_eq_ok] at hread
    obtain ⟨⟨item, behind⟩, hfirst, hread⟩ := hread
    rw [readItems, hitem t _ hfirst]
    simp only [extend, bind, Except.bind, skipGap_append_foreign h]
    dsimp only at hread
    split at hread
    · rename_i rest hgap
      rw [bind_eq_ok] at hread
      obtain ⟨⟨items, last⟩, hrest, hread⟩ := hread
      cases hread
      have hothers := ih (Nat.le_of_succ_le_succ hbound) hrest
      rw [← skipGap_append_foreign h] at hothers
      simp only [hgap, List.cons_append, hothers]
      rfl
    · rename_i rest hgap
      cases hread
      simp only [hgap, List.cons_append]
    · cases hread

/-- The name of a member ends before its value. -/
theorem goesOver_readName (h : IsForeign tail) : GoesOver tail readName := by
  intro t reading hread
  rw [readName.eq_def] at hread
  split at hread
  · rename_i rest
    rw [bind_eq_ok] at hread
    obtain ⟨⟨name, behind⟩, hname, hread⟩ := hread
    rw [List.cons_append, readName, goesOver_readString tail rest _ hname]
    simp only [extend, bind, Except.bind, skipGap_append_foreign h]
    dsimp only at hread
    split at hread
    · rename_i value hgap
      cases hread
      simp only [hgap, List.cons_append, skipGap_append_foreign h]
    · cases hread
  · cases hread

/-- The members of an object end with its brace. -/
theorem readMembers_append_foreign (h : IsForeign tail) (hitem : GoesOver tail readItem)
    {bound more : Nat} (hbound : bound ≤ more) {reading : List (Text × Json) × Text}
    (hread : readMembers readItem bound t = .ok reading) :
    readMembers readItem more (t ++ tail) = .ok (extend tail reading) := by
  induction bound generalizing more t reading with
  | zero => cases hread
  | succ bound ih =>
    obtain ⟨more, rfl⟩ : ∃ k, more = k + 1 := ⟨more - 1, by omega⟩
    rw [readMembers, bind_eq_ok] at hread
    obtain ⟨⟨name, value⟩, hname, hread⟩ := hread
    rw [bind_eq_ok] at hread
    obtain ⟨⟨item, behind⟩, hfirst, hread⟩ := hread
    rw [readMembers, goesOver_readName h t _ hname]
    simp only [extend, bind, Except.bind]
    rw [hitem value _ hfirst]
    simp only [extend, skipGap_append_foreign h]
    dsimp only at hread
    split at hread
    · rename_i rest hgap
      rw [bind_eq_ok] at hread
      obtain ⟨⟨members, last⟩, hrest, hread⟩ := hread
      cases hread
      have hothers := ih (Nat.le_of_succ_le_succ hbound) hrest
      rw [← skipGap_append_foreign h] at hothers
      simp only [hgap, List.cons_append, hothers]
      rfl
    · rename_i rest hgap
      cases hread
      simp only [hgap, List.cons_append]
    · cases hread

/-- An array ends with its bracket. -/
theorem goesOver_readArray (h : IsForeign tail) (hitem : GoesOver tail readItem) :
    GoesOver tail (readArray readItem) := by
  intro t reading hread
  rw [readArray.eq_def] at hread
  rw [readArray.eq_def, skipGap_append_foreign h]
  split at hread
  · rename_i rest hgap
    cases hread
    simp only [hgap, List.cons_append]
    rfl
  · rename_i hempty
    rw [bind_eq_ok] at hread
    obtain ⟨⟨items, behind⟩, hitems, hread⟩ := hread
    cases hread
    split
    · rename_i rest hfirst
      obtain ⟨more, hmore⟩ := exists_of_append_foreign h hfirst (by decide)
      exact absurd hmore (hempty more)
    · have hlength := List.length_append ▸ Nat.le_add_right (skipGap t).length tail.length
      rw [readItems_append_foreign h hitem hlength hitems]
      rfl

/-- An object ends with its brace. -/
theorem goesOver_readObject (h : IsForeign tail) (hitem : GoesOver tail readItem) :
    GoesOver tail (readObject readItem) := by
  intro t reading hread
  rw [readObject.eq_def] at hread
  rw [readObject.eq_def, skipGap_append_foreign h]
  split at hread
  · rename_i rest hgap
    cases hread
    simp only [hgap, List.cons_append]
    rfl
  · rename_i hempty
    rw [bind_eq_ok] at hread
    obtain ⟨⟨members, behind⟩, hmembers, hread⟩ := hread
    cases hread
    split
    · rename_i rest hfirst
      obtain ⟨more, hmore⟩ := exists_of_append_foreign h hfirst (by decide)
      exact absurd hmore (hempty more)
    · have hlength := List.length_append ▸ Nat.le_add_right (skipGap t).length tail.length
      rw [readMembers_append_foreign h hitem hlength hmembers]
      rfl

/-! ### Values -/

/-- A word or a number ends where it ends. -/
theorem goesOver_readAtom (h : IsForeign tail) : GoesOver tail readAtom := by
  intro t reading hread
  rw [readAtom_append_foreign h, hread]
  rfl

/-- A string that is read as a value ends with its quote. -/
theorem goesOver_string (tail : Text) : GoesOver tail fun t => (do
    let (found, rest) ← readString t
    .ok (.text found, rest) : Except JsonError (Json × Text)) := by
  intro t reading hread
  rw [bind_eq_ok] at hread
  obtain ⟨⟨found, rest⟩, hstring, hread⟩ := hread
  cases hread
  dsimp only
  rw [goesOver_readString tail t _ hstring]
  rfl

/-- A value ends where it ends, at every depth. -/
theorem goesOver_readValue (h : IsForeign tail) (depth : Nat) :
    GoesOver tail (readValue depth) := by
  induction depth with
  | zero =>
    intro t reading hread
    rw [readValue.eq_def] at hread
    split at hread
    · exact goesOver_string tail _ _ hread
    · cases hread
    · cases hread
    · rename_i hdepth
      cases hdepth
    · rename_i hdepth
      cases hdepth
    · exact readValue_of_readAtom 0 (goesOver_readAtom h _ _ hread)
  | succ depth ih =>
    intro t reading hread
    rw [readValue.eq_def] at hread
    split at hread
    · exact goesOver_string tail _ _ hread
    · rename_i hdepth
      cases hdepth
    · rename_i hdepth
      cases hdepth
    · rename_i hdepth
      cases hdepth
      exact goesOver_readArray h ih _ _ hread
    · rename_i hdepth
      cases hdepth
      exact goesOver_readObject h ih _ _ hread
    · exact readValue_of_readAtom _ (goesOver_readAtom h _ _ hread)

/-- A text that is JSON is none with a foreign text behind it. -/
theorem read_append_foreign (h : IsForeign tail) {value : Json} (hread : read t = .ok value) :
    read (t ++ tail) = .error .malformed := by
  rw [read] at hread
  split at hread
  · cases hread
  rename_i hmark
  rw [bind_eq_ok] at hread
  obtain ⟨⟨found, rest⟩, hvalue, -⟩ := hread
  have hlonger := goesOver_readValue h nestingBound _ _ hvalue
  have hfirst : (t ++ tail).head? ≠ some byteOrderMark := by
    obtain ⟨more, rfl⟩ := id h
    cases t with
    | nil => exact fun heq => absurd (Option.some.inj heq) (by decide)
    | cons c t => exact hmark
  have hrest : (skipGap (rest ++ tail)).isEmpty = false := by
    obtain ⟨more, rfl⟩ := id h
    rw [skipGap_append_foreign h]
    simp
  rw [read, if_neg hfirst, skipGap_append_foreign h, hlonger]
  simp only [extend, bind, Except.bind, hrest]
  rfl

end CommandDocs.Json
