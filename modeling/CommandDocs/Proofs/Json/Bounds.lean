import CommandDocs.Proofs.Json.Faithful
import CommandDocs.Proofs.Json.ReadForm

/-!
# Beyond the bounds of the reader

There are JSON texts that are not read. The reader and the writer convert integers up to the same
number of digits. A value with a longer one, wherever it stands, is refused by the writer; and if
its text were in a file all the same, the reader would not read it. And there is a depth of nesting
beyond which no value is read, whatever stands in it.
-/

namespace CommandDocs.Json

variable {layout : Layout} {value : Json} {items : List Json} {members : List (Text × Json)}
  {readItem : Text → Except JsonError (Json × Text)}

/-! ### Integers with too many digits -/

/-- An integer has no more digits than are converted. -/
def HasShortIntegers : Json → Prop
  | .int n => n.natAbs < 10 ^ digitBound
  | _ => True

/-- The form in which a reader gives a value is that of distinct names and short integers. -/
theorem everywhere_asRead : value.Everywhere AsRead ↔
    value.Everywhere HasDistinctNames ∧ value.Everywhere HasShortIntegers := by
  simp only [Everywhere, ← forall_and]
  refine forall₂_congr fun part _ => ?_
  cases part <;> simp [AsRead, HasDistinctNames, HasShortIntegers]

/-- Items are accepted together when each of them is. -/
theorem checkDigitsOfItems_eq_ok : checkDigitsOfItems items = .ok () ↔
    ∀ item ∈ items, checkDigits item = .ok () := by
  induction items with
  | nil => exact iff_of_true rfl (List.forall_mem_nil _)
  | cons item items ih => rw [checkDigitsOfItems, check_bind_eq_ok, ih, List.forall_mem_cons]

/-- Members are accepted together when the value of each of them is. -/
theorem checkDigitsOfMembers_eq_ok : checkDigitsOfMembers members = .ok () ↔
    ∀ member ∈ members, checkDigits member.2 = .ok () := by
  induction members with
  | nil => exact iff_of_true rfl (List.forall_mem_nil _)
  | cons member members ih =>
    rw [checkDigitsOfMembers, check_bind_eq_ok, ih, List.forall_mem_cons]

/-- A value is accepted when all of its integers are short. -/
theorem checkDigits_eq_ok : value.checkDigits = .ok () ↔ value.Everywhere HasShortIntegers := by
  induction value using induction with
  | atom value hatom =>
    cases value with
    | int n =>
      have hlength : (Text.ofNat n.natAbs).length ≤ digitBound ↔ n.natAbs < 10 ^ digitBound :=
        Text.length_ofNat_le (by decide)
      rw [checkDigits, everywhere_int, HasShortIntegers, ← hlength]
      split
      · exact iff_of_true rfl ‹_›
      · exact iff_of_false (fun h => nomatch h) ‹_›
    | array items => exact hatom.elim
    | object members => exact hatom.elim
    | _ => exact iff_of_true rfl (everywhere_of_isAtom trivial trivial)
  | array items ih =>
    rw [checkDigits, checkDigitsOfItems_eq_ok, everywhere_array]
    exact (forall₂_congr ih).trans (and_iff_right trivial).symm
  | object members ih =>
    rw [checkDigits, checkDigitsOfMembers_eq_ok, everywhere_object]
    exact (forall₂_congr ih).trans (and_iff_right trivial).symm

/-- A value that is not accepted fails in one way, whatever else is in it. -/
theorem checkDigits_eq_ok_or (value : Json) :
    value.checkDigits = .ok () ∨ value.checkDigits = .error (.tooManyDigits none) := by
  induction value using induction with
  | atom value hatom =>
    cases value with
    | int n =>
      rw [checkDigits]
      split
      · exact Or.inl rfl
      · exact Or.inr rfl
    | array items => exact hatom.elim
    | object members => exact hatom.elim
    | _ => exact Or.inl rfl
  | array items ih =>
    rw [checkDigits]
    induction items with
    | nil => exact Or.inl rfl
    | cons item items ihitems =>
      rw [List.forall_mem_cons] at ih
      exact check_bind_eq_ok_or ih.1 (ihitems ih.2)
  | object members ih =>
    rw [checkDigits]
    induction members with
    | nil => exact Or.inl rfl
    | cons member members ihmembers =>
      rw [List.forall_mem_cons] at ih
      exact check_bind_eq_ok_or ih.1 (ihmembers ih.2)

/-- A value with a long integer is refused. -/
theorem checkDigits_eq_error (hlong : ¬value.Everywhere HasShortIntegers) :
    value.checkDigits = .error (.tooManyDigits none) :=
  value.checkDigits_eq_ok_or.resolve_left (mt checkDigits_eq_ok.mp hlong)

/-- The text that a value with a long integer would have is not read. -/
theorem read_write_ne_ok (hblank : layout.IsBlank) (hdistinct : value.Everywhere HasDistinctNames)
    (hlong : ¬value.Everywhere HasShortIntegers) {behind : Text}
    (hbehind : ∀ c ∈ behind, isGap c = true) (other : Json) :
    read (write layout value ++ behind) ≠ .ok other := by
  intro hread
  obtain rfl := givesOnly_read_write hblank hdistinct hbehind other hread
  exact hlong (everywhere_asRead.mp (asRead_of_read hread)).2

/-! ### Values that are nested too deep -/

/-- Blanks are not skipped in front of a bracket. -/
theorem skipGap_bracket (t : Text) :
    skipGap (CodePoint.scalar '[' :: t) = CodePoint.scalar '[' :: t := by
  refine List.dropWhile_cons_of_neg ?_
  decide

/-- An array whose first item cannot be read cannot be read. -/
theorem readArray_bracket_of_error {t : Text} {e : JsonError}
    (h : readItem (CodePoint.scalar '[' :: t) = .error e) :
    readArray readItem (CodePoint.scalar '[' :: t) = .error e := by
  have hitems : readItems readItem (CodePoint.scalar '[' :: t).length (CodePoint.scalar '[' :: t) =
      .error e := by
    rw [List.length_cons, readItems, h]
    rfl
  rw [readArray, skipGap_bracket]
  split
  · rename_i heq
    cases heq
  · rw [hitems]
    rfl

/-- Brackets that are nested deeper than the bound are not read. -/
theorem readValue_brackets (depth : ℕ) (t : Text) :
    readValue depth (List.replicate (depth + 1) (CodePoint.scalar '[') ++ t) = .error .tooDeep := by
  induction depth with
  | zero => rfl
  | succ depth ih =>
    rw [List.replicate_succ, List.cons_append] at ih
    rw [List.replicate_succ, List.replicate_succ, List.cons_append, List.cons_append, readValue]
    exact readArray_bracket_of_error ih

/-- A text that begins with too many brackets is too deep, whatever stands behind them. -/
theorem read_replicate_bracket {n : ℕ} (hn : nestingBound < n) (t : Text) :
    read (List.replicate n (CodePoint.scalar '[') ++ t) = .error .tooDeep := by
  obtain ⟨more, rfl⟩ := Nat.exists_eq_add_of_le (Nat.succ_le_of_lt hn)
  have hvalue := readValue_brackets nestingBound (List.replicate more (CodePoint.scalar '[') ++ t)
  rw [← List.append_assoc, ← List.replicate_add] at hvalue
  have hgap : skipGap (List.replicate (nestingBound + 1 + more) (CodePoint.scalar '[') ++ t) =
      List.replicate (nestingBound + 1 + more) (CodePoint.scalar '[') ++ t := by
    rw [Nat.add_right_comm, List.replicate_succ]
    exact skipGap_bracket _
  have hmark : (List.replicate (nestingBound + 1 + more) (CodePoint.scalar '[') ++ t).head? ≠
      some byteOrderMark := by
    rw [Nat.add_right_comm, List.replicate_succ, List.cons_append, List.head?_cons, ne_eq,
      Option.some.injEq]
    decide
  rw [read, if_neg hmark, hgap, hvalue]
  rfl

/-- Arrays inside each other, the innermost one without an item. -/
def nestedArray : ℕ → Json
  | 0 => .array []
  | n + 1 => .array [nestedArray n]

/-- There is no text in them. -/
theorem hasUnicode_nestedArray (n : ℕ) : (nestedArray n).Everywhere HasUnicode := by
  induction n with
  | zero => exact everywhere_array.mpr ⟨trivial, List.forall_mem_nil _⟩
  | succ n ih => exact everywhere_array.mpr ⟨trivial, List.forall_mem_singleton.mpr ih⟩

/-- Brackets of arrays inside each other. -/
def brackets (n : ℕ) : Text :=
  List.replicate n (CodePoint.scalar '[') ++ List.replicate n (CodePoint.scalar ']')

/-- On one line the arrays are their brackets. -/
theorem writeAt_nestedArray (depth n : ℕ) :
    writeAt Layout.compact depth (nestedArray n) = brackets (n + 1) := by
  induction n generalizing depth with
  | zero => rfl
  | succ n ih =>
    have hgap (d : ℕ) : Layout.compact.gap d = [] := rfl
    have hbrackets : brackets (n + 2) = .scalar '[' :: brackets (n + 1) ++ [.scalar ']'] := by
      rw [brackets, List.replicate_succ, List.replicate_succ' (a := CodePoint.scalar ']'),
        ← List.append_assoc]
      rfl
    rw [nestedArray, writeAt, writeItemsAt, ih, hgap, hgap, List.append_nil, List.append_nil,
      List.append_nil, hbrackets]
    rfl

/-- Brackets are these two code points. -/
theorem satisfies_brackets {p : CodePoint → Prop} (hopening : p (.scalar '['))
    (hclosing : p (.scalar ']')) (n : ℕ) : ∀ c ∈ brackets n, p c := by
  refine List.forall_mem_append.mpr ⟨fun c hc => ?_, fun c hc => ?_⟩
  · rw [List.eq_of_mem_replicate hc]
    exact hopening
  · rw [List.eq_of_mem_replicate hc]
    exact hclosing

/-- Too many of them are not read. -/
theorem read_brackets {n : ℕ} (hn : nestingBound < n) : read (brackets n) = .error .tooDeep :=
  read_replicate_bracket hn _

end CommandDocs.Json
