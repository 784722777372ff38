import CommandDocs.Proofs.Json.Numbers
import CommandDocs.Proofs.Json.Parts
import CommandDocs.Proofs.Json.Strings

/-!
# Written values read back

A value in the form in which a reader gives it is read from its written form as itself,
at any depth that its nesting allows and in any layout that uses nothing but blanks. The
induction is on the value; inside an array and an object a second one runs along the
items and members.
-/

namespace CommandDocs.Json

/-- A layout that fills in blanks only. -/
structure Layout.IsBlank (layout : Layout) : Prop where
  /-- What stands before an item is blank. -/
  gap : ∀ depth, ∀ c ∈ layout.gap depth, isGap c = true
  /-- What stands behind a colon is blank. -/
  behindColon : ∀ c ∈ layout.behindColon, isGap c = true

/-- The layout of files is blank. -/
theorem isBlank_indented : Layout.indented.IsBlank := by
  constructor
  · intro depth c hc
    rcases List.mem_cons.mp hc with rfl | hspace
    · rfl
    · rw [List.eq_of_mem_replicate hspace]
      rfl
  · intro c hc
    rw [List.mem_singleton.mp hc]
    rfl

/-- Blanks are skipped. -/
theorem skipGap_append {gap t : Text} (h : ∀ c ∈ gap, isGap c = true) :
    skipGap (gap ++ t) = skipGap t :=
  List.dropWhile_append_of_pos h

/-- The text goes on with a code point that may begin a value. -/
def Opens (t : Text) : Prop :=
  ∃ c tail, t = c :: tail ∧ isCloser c = false ∧ c ≠ byteOrderMark

/-- Nothing is skipped in front of a value. -/
theorem Opens.skipGap {t : Text} (h : Opens t) : skipGap t = t := by
  obtain ⟨c, tail, rfl, hcloser, -⟩ := h
  have hgap : ¬isGap c = true := by
    intro hgap
    rw [isCloser, hgap] at hcloser
    cases hcloser
  exact List.dropWhile_cons_of_neg hgap

/-- What is read as an atom is read as a value. -/
theorem readValue_of_readAtom (depth : ℕ) {t : Text} {reading : Json × Text}
    (h : readAtom t = .ok reading) : readValue depth t = .ok reading := by
  rw [readValue.eq_def]
  split <;> first | exact h | cases h

/-- A closing code point or a byte order mark begins no value. -/
theorem opens_of_readValue {depth : ℕ} {t : Text} {reading : Json × Text}
    (h : readValue depth t = .ok reading) : Opens t := by
  have hatom : ∀ c tail, isCloser c = true ∨ c = byteOrderMark →
      readValue depth (c :: tail) = .error .malformed := by
    intro c tail h
    rcases h with hc | rfl
    · rcases cases_of_isCloser hc with rfl | rfl | rfl | rfl | rfl | rfl | rfl <;>
        cases depth <;> rfl
    · cases depth <;> rfl
  cases t with
  | nil => cases depth <;> cases h
  | cons c tail =>
    refine ⟨c, tail, rfl, ?_, ?_⟩
    · rw [← Bool.not_eq_true]
      intro hc
      rw [hatom c tail (Or.inl hc)] at h
      cases h
    · intro hc
      rw [hatom c tail (Or.inr hc)] at h
      cases h

/-- A digit begins a value. -/
theorem opens_of_isDigit {c : CodePoint} (h : c.isDigit = true) (tail : Text) :
    Opens (c :: tail) := by
  refine ⟨c, tail, rfl, ?_, ?_⟩
  · rw [← Bool.not_eq_true]
    intro hcloser
    rcases cases_of_isCloser hcloser with rfl | rfl | rfl | rfl | rfl | rfl | rfl <;> cases h
  · rintro rfl
    cases h

/-- A written integer begins a value. -/
theorem opens_ofInt (i : ℤ) (rest : Text) : Opens (Text.ofInt i ++ rest) := by
  rw [Text.ofInt]
  split
  · exact ⟨_, _, rfl, rfl, by decide⟩
  · obtain ⟨c, tail, hdigits⟩ := List.exists_cons_of_ne_nil (Text.ofNat_ne_nil i.natAbs)
    have hdigit := Text.isNumeral_ofNat i.natAbs c (hdigits ▸ List.mem_cons_self)
    rw [hdigits]
    exact opens_of_isDigit hdigit _

/-- A written value begins one, whatever follows it. -/
theorem opens_writeAt (layout : Layout) (d : ℕ) (value : Json) (rest : Text) :
    Opens (writeAt layout d value ++ rest) := by
  cases value with
  | null => exact ⟨_, _, rfl, rfl, by decide⟩
  | bool b => cases b <;> exact ⟨_, _, rfl, rfl, by decide⟩
  | int i => exact opens_ofInt i rest
  | float x =>
    have hend : Closes [] := by
      intro c h
      cases h
    have hread := readValue_of_readAtom 0 (readAtom_float x hend)
    obtain ⟨c, tail, hx, hc⟩ := opens_of_readValue hread
    rw [List.append_nil] at hx
    rw [writeAt, hx]
    exact ⟨c, tail ++ rest, rfl, hc⟩
  | text t => exact ⟨_, _, rfl, rfl, by decide⟩
  | array items => cases items <;> exact ⟨_, _, rfl, rfl, by decide⟩
  | object members => cases members <;> exact ⟨_, _, rfl, rfl, by decide⟩

/-- A blank and a closing bracket may stand behind a value. -/
theorem closes_append {gap : Text} (h : ∀ c ∈ gap, isGap c = true) {c : CodePoint}
    (hc : isCloser c = true) (rest : Text) : Closes (gap ++ c :: rest) := by
  cases gap with
  | nil =>
    intro d h
    cases h
    exact hc
  | cons d gap =>
    intro d' h
    cases h
    rw [isCloser, h d (List.mem_cons_self ..)]
    rfl

variable {layout : Layout} {n d : ℕ}

/-- The written value, in front of anything that may follow it, is read as the value. -/
def ReadsBack (layout : Layout) (n d : ℕ) (value : Json) : Prop :=
  ∀ rest, Closes rest → readValue n (writeAt layout d value ++ rest) = .ok (value, rest)

/-- Items behind the first one may stand behind a value. -/
theorem closes_writeItemsAt (layout : Layout) (d : ℕ) (items : List Json) {closing : Text}
    (hclosing : Closes closing) : Closes (writeItemsAt layout d items ++ closing) := by
  cases items with
  | nil => exact hclosing
  | cons item items =>
    intro c h
    cases h
    rfl

/-- Members behind the first one may stand behind a value. -/
theorem closes_writeMembersAt (layout : Layout) (d : ℕ) (members : List (Text × Json))
    {closing : Text} (hclosing : Closes closing) :
    Closes (writeMembersAt layout d members ++ closing) := by
  cases members with
  | nil => exact hclosing
  | cons member members =>
    intro c h
    cases h
    rfl

/-- Every item takes at least the comma in front of it. -/
theorem length_writeItemsAt (layout : Layout) (d : ℕ) (items : List Json) :
    items.length ≤ (writeItemsAt layout d items).length := by
  induction items with
  | nil => exact Nat.zero_le _
  | cons item items ih =>
    simp only [writeItemsAt, List.length_append, List.length_cons]
    have hcomma : (Text.ofString ",").length = 1 := rfl
    omega

/-- Every member takes at least the comma in front of it. -/
theorem length_writeMembersAt (layout : Layout) (d : ℕ) (members : List (Text × Json)) :
    members.length ≤ (writeMembersAt layout d members).length := by
  induction members with
  | nil => exact Nat.zero_le _
  | cons member members ih =>
    simp only [writeMembersAt, List.length_append, List.length_cons]
    have hcomma : (Text.ofString ",").length = 1 := rfl
    omega

/-- Nothing but the blanks in front of a written value is skipped. -/
theorem skipGap_gap_writeAt (hblank : layout.IsBlank) (d : ℕ) (value : Json) (rest : Text) :
    skipGap (layout.gap d ++ (writeAt layout d value ++ rest)) =
      writeAt layout d value ++ rest := by
  rw [skipGap_append (hblank.gap d), (opens_writeAt layout d value rest).skipGap]

/-- Nothing but the blanks in front of a written name is skipped. -/
theorem skipGap_gap_writeText (hblank : layout.IsBlank) (d : ℕ) (name rest : Text) :
    skipGap (layout.gap d ++ (writeText name ++ rest)) = writeText name ++ rest := by
  rw [skipGap_append (hblank.gap d)]
  rfl

/-- Items behind the first one begin with a comma. -/
theorem skipGap_writeItemsAt (item : Json) (items : List Json) (rest : Text) :
    skipGap (writeItemsAt layout d (item :: items) ++ rest) = .scalar ',' ::
      (layout.gap d ++ (writeAt layout d item ++ (writeItemsAt layout d items ++ rest))) := by
  simp only [writeItemsAt, List.append_assoc]
  rfl

/-- Members behind the first one begin with a comma. -/
theorem skipGap_writeMembersAt (member : Text × Json) (members : List (Text × Json))
    (rest : Text) :
    skipGap (writeMembersAt layout d (member :: members) ++ rest) = .scalar ',' ::
      (layout.gap d ++ (writeText member.1 ++ ((":" : Text) ++ (layout.behindColon ++
        (writeAt layout d member.2 ++ (writeMembersAt layout d members ++ rest)))))) := by
  obtain ⟨name, value⟩ := member
  simp only [writeMembersAt, List.append_assoc]
  rfl

/-- An array begins with its bracket. -/
theorem writeAt_array_append (item : Json) (items : List Json) (rest : Text) :
    writeAt layout d (.array (item :: items)) ++ rest = .scalar '[' ::
      (layout.gap (d + 1) ++ (writeAt layout (d + 1) item ++
        (writeItemsAt layout (d + 1) items ++ (layout.gap d ++ .scalar ']' :: rest)))) := by
  simp only [writeAt, List.append_assoc]
  rfl

/-- An object begins with its brace. -/
theorem writeAt_object_append (name : Text) (value : Json) (members : List (Text × Json))
    (rest : Text) :
    writeAt layout d (.object ((name, value) :: members)) ++ rest = .scalar '\x7b' ::
      (layout.gap (d + 1) ++ (writeText name ++ ((":" : Text) ++ (layout.behindColon ++
        (writeAt layout (d + 1) value ++ (writeMembersAt layout (d + 1) members ++
          (layout.gap d ++ .scalar '\x7d' :: rest))))))) := by
  simp only [writeAt, List.append_assoc]
  rfl

/-- Items are read one by one up to the bracket. -/
theorem readItems_writeItemsAt (hblank : layout.IsBlank) {items : List Json}
    (hitems : ∀ item ∈ items, ReadsBack layout n d item) {bound : ℕ}
    (hbound : items.length < bound) {gap rest t : Text} (hgap : ∀ c ∈ gap, isGap c = true)
    {first : Json} (hfirst : readValue n t =
      .ok (first, writeItemsAt layout d items ++ (gap ++ .scalar ']' :: rest))) :
    readItems (readValue n) bound t = .ok (first :: items, rest) := by
  induction items generalizing bound t first with
  | nil =>
    obtain ⟨bound, rfl⟩ : ∃ k, bound = k + 1 := ⟨bound - 1, by omega⟩
    have hclosing : skipGap (gap ++ .scalar ']' :: rest) = .scalar ']' :: rest :=
      skipGap_append hgap
    rw [writeItemsAt, List.nil_append] at hfirst
    simp only [readItems, hfirst, bind, Except.bind, hclosing]
  | cons item items ih =>
    obtain ⟨bound, rfl⟩ : ∃ k, bound = k + 1 := ⟨bound - 1, by omega⟩
    rw [List.forall_mem_cons] at hitems
    have hbracket : isCloser (.scalar ']') = true := rfl
    have hnext := hitems.1 _ (closes_writeItemsAt layout d items (closes_append hgap hbracket rest))
    have hrest := ih hitems.2 (Nat.lt_of_succ_lt_succ hbound) hnext
    simp only [readItems, hfirst, bind, Except.bind, skipGap_writeItemsAt,
      skipGap_gap_writeAt hblank, hrest]

/-- The name of a member is read up to the value behind it. -/
theorem readName_writeText (hblank : layout.IsBlank) (name : Text) {t : Text} (ht : Opens t) :
    readName (writeText name ++ ((":" : Text) ++ (layout.behindColon ++ t))) =
      .ok (name, t) := by
  have hquoted : writeText name ++ ((":" : Text) ++ (layout.behindColon ++ t)) =
      .scalar '\x22' :: (name.flatMap escape ++ .scalar '\x22' ::
        .scalar ':' :: (layout.behindColon ++ t)) := by
    simp only [writeText, List.append_assoc, List.cons_append]
    rfl
  have hskip : skipGap (layout.behindColon ++ t) = t := by
    rw [skipGap_append hblank.behindColon, ht.skipGap]
  have hcolon : skipGap (.scalar ':' :: (layout.behindColon ++ t)) =
      .scalar ':' :: (layout.behindColon ++ t) := rfl
  rw [hquoted]
  simp only [readName, readString_writeText, bind, Except.bind, hcolon, hskip]

/-- Members are read one by one up to the brace. -/
theorem readMembers_writeMembersAt (hblank : layout.IsBlank) {members : List (Text × Json)}
    (hvalues : ∀ member ∈ members, ReadsBack layout n d member.2) {bound : ℕ}
    (hbound : members.length < bound) {gap rest t t' : Text} (hgap : ∀ c ∈ gap, isGap c = true)
    {name : Text} {value : Json} (hname : readName t = .ok (name, t'))
    (hvalue : readValue n t' =
      .ok (value, writeMembersAt layout d members ++ (gap ++ .scalar '\x7d' :: rest))) :
    readMembers (readValue n) bound t = .ok ((name, value) :: members, rest) := by
  induction members generalizing bound t t' name value with
  | nil =>
    obtain ⟨bound, rfl⟩ : ∃ k, bound = k + 1 := ⟨bound - 1, by omega⟩
    have hclosing : skipGap (gap ++ .scalar '\x7d' :: rest) = .scalar '\x7d' :: rest :=
      skipGap_append hgap
    rw [writeMembersAt, List.nil_append] at hvalue
    simp only [readMembers, hname, hvalue, bind, Except.bind, hclosing]
  | cons member members ih =>
    obtain ⟨bound, rfl⟩ : ∃ k, bound = k + 1 := ⟨bound - 1, by omega⟩
    rw [List.forall_mem_cons] at hvalues
    have hbrace : isCloser (.scalar '\x7d') = true := rfl
    have hnext := hvalues.1 _ (closes_writeMembersAt layout d members
      (closes_append hgap hbrace rest))
    have hnextName := readName_writeText hblank member.1 (opens_of_readValue hnext)
    have hrest := ih hvalues.2 (Nat.lt_of_succ_lt_succ hbound) hnextName hnext
    simp only [readMembers, hname, hvalue, bind, Except.bind, skipGap_writeMembersAt,
      skipGap_gap_writeText hblank, hrest]

/-- A written array is read as the array of its items. -/
theorem readsBack_array (hblank : layout.IsBlank) {items : List Json}
    (hitems : ∀ item ∈ items, ReadsBack layout n (d + 1) item) :
    ReadsBack layout (n + 1) d (.array items) := by
  intro rest hrest
  cases items with
  | nil => rfl
  | cons item items =>
    rw [List.forall_mem_cons] at hitems
    have hbracket : isCloser (.scalar ']') = true := rfl
    have hfirst := hitems.1 _
      (closes_writeItemsAt layout (d + 1) items (closes_append (hblank.gap d) hbracket rest))
    have hbound : items.length < (writeAt layout (d + 1) item ++
        (writeItemsAt layout (d + 1) items ++ (layout.gap d ++ .scalar ']' :: rest))).length := by
      have hlength := length_writeItemsAt layout (d + 1) items
      simp only [List.length_append, List.length_cons]
      omega
    have hread := readItems_writeItemsAt hblank hitems.2 hbound (hblank.gap d) hfirst
    rw [writeAt_array_append, readValue, readArray, skipGap_gap_writeAt hblank]
    obtain ⟨c, tail, ht, hcloser, -⟩ := opens_of_readValue hfirst
    split
    · rename_i behind heq
      rw [ht] at heq
      cases heq
      cases hcloser
    · simp only [hread, bind, Except.bind]

/-- A written object is read as the object of its members. -/
theorem readsBack_object (hblank : layout.IsBlank) {members : List (Text × Json)}
    (hdistinct : (Entries.keys members).Nodup)
    (hvalues : ∀ member ∈ members, ReadsBack layout n (d + 1) member.2) :
    ReadsBack layout (n + 1) d (.object members) := by
  intro rest hrest
  have hkeep : Entries.ofPairs members = members := Entries.ofPairs_of_nodup hdistinct
  cases members with
  | nil => rfl
  | cons member members =>
    obtain ⟨name, value⟩ := member
    rw [List.forall_mem_cons] at hvalues
    have hbrace : isCloser (.scalar '\x7d') = true := rfl
    have hvalue := hvalues.1 _ (closes_writeMembersAt layout (d + 1) members
      (closes_append (hblank.gap d) hbrace rest))
    have hname := readName_writeText hblank name (opens_of_readValue hvalue)
    have hbound : members.length < (writeText name ++ ((":" : Text) ++ (layout.behindColon ++
        (writeAt layout (d + 1) value ++ (writeMembersAt layout (d + 1) members ++
          (layout.gap d ++ .scalar '\x7d' :: rest)))))).length := by
      have hlength := length_writeMembersAt layout (d + 1) members
      simp only [List.length_append, List.length_cons]
      omega
    have hread := readMembers_writeMembersAt hblank hvalues.2 hbound (hblank.gap d) hname hvalue
    rw [writeAt_object_append, readValue, readObject, skipGap_gap_writeText hblank]
    split
    · rename_i behind heq
      cases heq
    · simp only [hread, bind, Except.bind, hkeep]

/-- A written value is read as itself, whatever follows it. -/
theorem readsBack_of_nestedWithin (hblank : layout.IsBlank) {value : Json}
    (hform : value.Everywhere AsRead) (hdepth : NestedWithin n value) :
    ReadsBack layout n d value := by
  induction value using induction generalizing n d with
  | atom value hatom =>
    intro rest hrest
    cases value with
    | null => exact readValue_of_readAtom n rfl
    | bool b =>
      cases b with
      | true => exact readValue_of_readAtom n rfl
      | false => exact readValue_of_readAtom n rfl
    | int i => exact readValue_of_readAtom n (readAtom_ofInt hform.self hrest)
    | float x => exact readValue_of_readAtom n (readAtom_float x hrest)
    | text t =>
      have hquoted : writeText t ++ rest =
          .scalar '\x22' :: (t.flatMap escape ++ .scalar '\x22' :: rest) := by
        simp [writeText]
      rw [writeAt, hquoted, readValue, readString_writeText]
      rfl
    | array items => exact hatom.elim
    | object members => exact hatom.elim
  | array items ih =>
    cases n with
    | zero => exact hdepth.elim
    | succ n =>
      rw [everywhere_array] at hform
      exact readsBack_array hblank fun item hitem =>
        ih item hitem (hform.2 item hitem) (hdepth item hitem)
  | object members ih =>
    cases n with
    | zero => exact hdepth.elim
    | succ n =>
      rw [everywhere_object] at hform
      exact readsBack_object hblank hform.1 fun member hmember =>
        ih member hmember (hform.2 member hmember) (hdepth member hmember)

/-- Blanks may stand behind a value. -/
theorem closes_of_gap {behind : Text} (hbehind : ∀ c ∈ behind, isGap c = true) :
    Closes behind := by
  intro c hc
  rw [isCloser, hbehind c (List.mem_of_mem_head? hc)]
  rfl

/-- Blanks are skipped to the end. -/
theorem skipGap_of_gap {behind : Text} (hbehind : ∀ c ∈ behind, isGap c = true) :
    skipGap behind = [] := by
  rw [← List.append_nil behind, skipGap_append hbehind]
  rfl

/-- A value written on its own, with blanks behind it, is read as itself. -/
theorem read_write (hblank : layout.IsBlank) {value : Json} (hform : value.Everywhere AsRead)
    (hdepth : NestedWithin nestingBound value) {behind : Text}
    (hbehind : ∀ c ∈ behind, isGap c = true) :
    read (write layout value ++ behind) = .ok value := by
  have hread := readsBack_of_nestedWithin (d := 0) hblank hform hdepth behind
    (closes_of_gap hbehind)
  have hopens := opens_of_readValue hread
  have hmark : (write layout value ++ behind).head? ≠ some byteOrderMark := by
    obtain ⟨c, tail, ht, -, hc⟩ := hopens
    rw [write, ht]
    simpa using hc
  rw [read, if_neg hmark, write, hopens.skipGap]
  simp only [hread, bind, Except.bind, skipGap_of_gap hbehind]
  rfl

end CommandDocs.Json
