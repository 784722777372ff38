import CommandDocs.Proofs.Json.RoundTrip

/-!
# Written values are read as nothing else

The reader may give up on a written value, when an integer has too many digits or the nesting
is too deep. Whenever it gives a value it is the one that was written, with no condition on the
texts in it. The induction is on the value; along items and members a second one says the same
of the readings behind one another.
-/

namespace CommandDocs.Json

variable {layout : Layout} {n d : ℕ} {rest t t' : Text}

/-- The names of an object are distinct. -/
def HasDistinctNames : Json → Prop
  | .object members => (Entries.keys members).Nodup
  | _ => True

/-- The written value, in front of anything that may follow it, is read as nothing but itself. -/
def ReadsOnly (layout : Layout) (n d : ℕ) (value : Json) : Prop :=
  ∀ rest, Closes rest → GivesOnly (readValue n (writeAt layout d value ++ rest)) (value, rest)

/-! ### Integers -/

/-- Digits are read as their number, unless there are too many. -/
theorem givesOnly_readMagnitude_ofNat (negative : Bool) (k : ℕ) (hrest : Closes rest) :
    GivesOnly (readMagnitude negative (Text.ofNat k ++ rest))
      (.int (if negative then -(k : ℤ) else k), rest) := by
  by_cases hlength : digitBound < (Text.ofNat k).length
  · rw [readMagnitude, readWhole_append (isWhole_ofNat k) hrest.endsDigits]
    simp only [hrest.readFraction, hrest.readExponent, if_pos hlength]
    exact givesOnly_error _ _
  · rw [readMagnitude_int negative (isWhole_ofNat k) (Nat.not_lt.mp hlength) hrest,
      Text.toNat_ofNat]
    exact givesOnly_ok _

/-- A number begins no string, array or object. -/
theorem readValue_of_isDigit {c : CodePoint} (h : c.isDigit = true ∨ c = .scalar '-')
    (tail : Text) : readValue n (c :: tail) = readAtom (c :: tail) := by
  rw [readValue.eq_def]
  split
  all_goals first
    | rfl
    | rename_i heq
      cases heq
      rcases h with h | h <;> cases h

/-- An integer is read as itself, unless it has too many digits. -/
theorem readsOnly_int (i : ℤ) : ReadsOnly layout n d (.int i) := by
  intro rest hrest
  obtain ⟨c, tail, hdigits⟩ := List.exists_cons_of_ne_nil (Text.ofNat_ne_nil i.natAbs)
  have hdigit := Text.isNumeral_ofNat i.natAbs c (hdigits ▸ List.mem_cons_self)
  have hread := fun negative => givesOnly_readMagnitude_ofNat negative i.natAbs hrest
  rw [hdigits, List.cons_append] at hread
  rw [writeAt, Text.ofInt]
  split
  · have hvalue : -(i.natAbs : ℤ) = i := by omega
    rw [hdigits, List.cons_append, List.cons_append, readValue_of_isDigit (Or.inr rfl),
      readAtom_minus_of_isDigit hdigit]
    rw [← hvalue]
    exact hread true
  · have hvalue : (i.natAbs : ℤ) = i := by omega
    rw [hdigits, List.cons_append, readValue_of_isDigit (Or.inl hdigit),
      readAtom_of_isDigit hdigit]
    rw [← hvalue]
    exact hread false

/-! ### Arrays and objects -/

/-- Items that are read as nothing but themselves are read so one by one up to the bracket. -/
theorem givesOnly_readItems (hblank : layout.IsBlank) {items : List Json}
    (hitems : ∀ item ∈ items, ReadsOnly layout n d item) (bound : ℕ) {gap : Text}
    (hgap : ∀ c ∈ gap, isGap c = true) {first : Json} (hfirst : GivesOnly (readValue n t)
      (first, writeItemsAt layout d items ++ (gap ++ .scalar ']' :: rest))) :
    GivesOnly (readItems (readValue n) bound t) (first :: items, rest) := by
  -- on the items behind the first; a bound that is too small only makes the reader give up
  induction items generalizing bound t first with
  | nil =>
    cases bound with
    | zero => exact givesOnly_error _ _
    | succ bound =>
      have hclosing : skipGap (gap ++ .scalar ']' :: rest) = .scalar ']' :: rest :=
        skipGap_append hgap
      rw [readItems]
      refine hfirst.bind ?_
      simp only [writeItemsAt, List.nil_append, hclosing]
      exact givesOnly_ok _
  | cons item items ih =>
    cases bound with
    | zero => exact givesOnly_error _ _
    | succ bound =>
      rw [List.forall_mem_cons] at hitems
      have hbracket : isCloser (.scalar ']') = true := rfl
      have hnext := hitems.1 _
        (closes_writeItemsAt layout d items (closes_append hgap hbracket rest))
      rw [readItems]
      refine hfirst.bind ?_
      simp only [skipGap_writeItemsAt, skipGap_gap_writeAt hblank]
      exact (ih hitems.2 bound hnext).bind (givesOnly_ok _)

/-- Members whose values are read as nothing but themselves are read so one by one up to the
brace. -/
theorem givesOnly_readMembers (hblank : layout.IsBlank) {members : List (Text × Json)}
    (hvalues : ∀ member ∈ members, ReadsOnly layout n d member.2) (bound : ℕ) {gap : Text}
    (hgap : ∀ c ∈ gap, isGap c = true) {first : Text × Json}
    (hname : readName t = .ok (first.1, t')) (hfirst : GivesOnly (readValue n t')
      (first.2, writeMembersAt layout d members ++ (gap ++ .scalar '\x7d' :: rest))) :
    GivesOnly (readMembers (readValue n) bound t) (first :: members, rest) := by
  induction members generalizing bound t t' first with
  | nil =>
    cases bound with
    | zero => exact givesOnly_error _ _
    | succ bound =>
      have hclosing : skipGap (gap ++ .scalar '\x7d' :: rest) = .scalar '\x7d' :: rest :=
        skipGap_append hgap
      rw [readMembers, hname]
      refine hfirst.bind ?_
      simp only [writeMembersAt, List.nil_append, hclosing]
      exact givesOnly_ok _
  | cons member members ih =>
    cases bound with
    | zero => exact givesOnly_error _ _
    | succ bound =>
      rw [List.forall_mem_cons] at hvalues
      have hbrace : isCloser (.scalar '\x7d') = true := rfl
      have hnext := hvalues.1 _
        (closes_writeMembersAt layout d members (closes_append hgap hbrace rest))
      have hnextName := readName_writeText hblank member.1 (opens_writeAt layout d member.2
        (writeMembersAt layout d members ++ (gap ++ .scalar '\x7d' :: rest)))
      rw [readMembers, hname]
      refine hfirst.bind ?_
      simp only [skipGap_writeMembersAt, skipGap_gap_writeText hblank]
      exact (ih hvalues.2 bound hnextName hnext).bind (givesOnly_ok _)

/-- A written array is read as nothing but itself when its items are. -/
theorem readsOnly_array (hblank : layout.IsBlank) {items : List Json}
    (hitems : ∀ item ∈ items, ReadsOnly layout n (d + 1) item) :
    ReadsOnly layout (n + 1) d (.array items) := by
  intro rest hrest
  cases items with
  | nil => exact givesOnly_ok _
  | cons item items =>
    rw [List.forall_mem_cons] at hitems
    have hbracket : isCloser (.scalar ']') = true := rfl
    have hfirst := hitems.1 _
      (closes_writeItemsAt layout (d + 1) items (closes_append (hblank.gap d) hbracket rest))
    rw [writeAt_array_append, readValue, readArray, skipGap_gap_writeAt hblank]
    obtain ⟨c, tail, ht, hcloser, -⟩ := opens_writeAt layout (d + 1) item
      (writeItemsAt layout (d + 1) items ++ (layout.gap d ++ .scalar ']' :: rest))
    split
    · rename_i behind heq
      rw [ht] at heq
      cases heq
      cases hcloser
    · exact (givesOnly_readItems hblank hitems.2 _ (hblank.gap d) hfirst).bind (givesOnly_ok _)

/-- A written object with distinct names is read as nothing but itself when its values are. -/
theorem readsOnly_object (hblank : layout.IsBlank) {members : List (Text × Json)}
    (hdistinct : (Entries.keys members).Nodup)
    (hvalues : ∀ member ∈ members, ReadsOnly layout n (d + 1) member.2) :
    ReadsOnly layout (n + 1) d (.object members) := by
  intro rest hrest
  have hkeep : Entries.ofPairs members = members := Entries.ofPairs_of_nodup hdistinct
  cases members with
  | nil => exact givesOnly_ok _
  | cons member members =>
    rw [List.forall_mem_cons] at hvalues
    have hbrace : isCloser (.scalar '\x7d') = true := rfl
    have hfirst := hvalues.1 _ (closes_writeMembersAt layout (d + 1) members
      (closes_append (hblank.gap d) hbrace rest))
    have hname := readName_writeText hblank member.1 (opens_writeAt layout (d + 1) member.2
      (writeMembersAt layout (d + 1) members ++ (layout.gap d ++ .scalar '\x7d' :: rest)))
    rw [writeAt_object_append, readValue, readObject, skipGap_gap_writeText hblank]
    split
    · rename_i behind heq
      cases heq
    · refine (givesOnly_readMembers hblank hvalues.2 _ (hblank.gap d) hname hfirst).bind ?_
      dsimp only
      rw [hkeep]
      exact givesOnly_ok _

/-! ### Values -/

/-- A written value with distinct names everywhere is read as nothing but itself, to whatever
depth the reader goes. -/
theorem readsOnly_of_hasDistinctNames (hblank : layout.IsBlank) {value : Json}
    (hdistinct : value.Everywhere HasDistinctNames) : ReadsOnly layout n d value := by
  induction value using induction generalizing n d with
  | atom value hatom =>
    intro rest hrest
    cases value with
    | null =>
      rw [readValue_of_readAtom n rfl]
      exact givesOnly_ok _
    | bool b =>
      cases b with
      | true =>
        rw [readValue_of_readAtom n rfl]
        exact givesOnly_ok _
      | false =>
        rw [readValue_of_readAtom n rfl]
        exact givesOnly_ok _
    | int i => exact readsOnly_int i rest hrest
    | float x =>
      rw [writeAt, readValue_of_readAtom n (readAtom_float x hrest)]
      exact givesOnly_ok _
    | text t =>
      have hquoted : writeText t ++ rest =
          .scalar '\x22' :: (t.flatMap escape ++ .scalar '\x22' :: rest) := by
        simp [writeText]
      rw [writeAt, hquoted, readValue, readString_writeText]
      exact givesOnly_ok _
    | array items => exact hatom.elim
    | object members => exact hatom.elim
  | array items ih =>
    rw [everywhere_array] at hdistinct
    cases n with
    | zero =>
      intro rest hrest
      cases items <;> exact givesOnly_error _ _
    | succ n =>
      exact readsOnly_array hblank fun item hitem => ih item hitem (hdistinct.2 item hitem)
  | object members ih =>
    rw [everywhere_object] at hdistinct
    cases n with
    | zero =>
      intro rest hrest
      cases members <;> exact givesOnly_error _ _
    | succ n =>
      exact readsOnly_object hblank hdistinct.1 fun member hmember =>
        ih member hmember (hdistinct.2 member hmember)

/-- A value written on its own, with blanks behind it, is read as nothing but itself. -/
theorem givesOnly_read_write (hblank : layout.IsBlank) {value : Json}
    (hdistinct : value.Everywhere HasDistinctNames) {behind : Text}
    (hbehind : ∀ c ∈ behind, isGap c = true) :
    GivesOnly (read (write layout value ++ behind)) value := by
  have hread := readsOnly_of_hasDistinctNames (n := nestingBound) (d := 0) hblank hdistinct behind
    (closes_of_gap hbehind)
  have hopens := opens_writeAt layout 0 value behind
  have hmark : (write layout value ++ behind).head? ≠ some byteOrderMark := by
    obtain ⟨c, tail, ht, -, hc⟩ := hopens
    rw [write, ht]
    simpa using hc
  rw [read, if_neg hmark, write, hopens.skipGap]
  refine hread.bind ?_
  dsimp only
  rw [skipGap_of_gap hbehind]
  exact givesOnly_ok _

end CommandDocs.Json
