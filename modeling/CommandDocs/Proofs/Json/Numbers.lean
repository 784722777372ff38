import CommandDocs.Json.Printer
import CommandDocs.Json.Reader
import CommandDocs.Proofs.Number.Shortest
import CommandDocs.Proofs.Text.Numeral

/-!
# Numbers read back

What follows a value in a JSON text is a blank, a comma or a closing bracket, none of
which can continue a number. A number in front of it is therefore read up to its end,
and each of the forms in which a number is written is read as the number it stands for.
-/

namespace CommandDocs.Json

/-- A code point that may stand behind a value. -/
def isCloser (c : CodePoint) : Bool :=
  isGap c || c == .scalar ',' || c == .scalar ']' || c == .scalar '\x7d'

/-- The text ends, or goes on with a code point that may stand behind a value. -/
def Closes (rest : Text) : Prop := ∀ c ∈ rest.head?, isCloser c = true

/-- What may stand behind a value, one by one. -/
theorem cases_of_isCloser {c : CodePoint} (h : isCloser c = true) :
    c = .scalar ' ' ∨ c = .scalar '\t' ∨ c = .scalar '\n' ∨ c = .scalar '\r' ∨
      c = .scalar ',' ∨ c = .scalar ']' ∨ c = .scalar '\x7d' := by
  simpa only [isCloser, isGap, Bool.or_eq_true, beq_iff_eq, or_assoc] using h

/-- Behind a value the text ends or shows one of seven code points. -/
theorem Closes.cases {rest : Text} (h : Closes rest) :
    rest = [] ∨ ∃ c tail, rest = c :: tail ∧ (c = .scalar ' ' ∨ c = .scalar '\t' ∨
      c = .scalar '\n' ∨ c = .scalar '\r' ∨ c = .scalar ',' ∨ c = .scalar ']' ∨
      c = .scalar '\x7d') := by
  cases rest with
  | nil => exact Or.inl rfl
  | cons c tail => exact Or.inr ⟨c, tail, rfl, cases_of_isCloser (h c rfl)⟩

/-- Behind a value no fraction begins. -/
theorem Closes.readFraction {rest : Text} (h : Closes rest) : readFraction rest = none := by
  rcases h.cases with rfl | ⟨c, tail, rfl, hc⟩
  · rfl
  · rcases hc with rfl | rfl | rfl | rfl | rfl | rfl | rfl <;> rfl

/-- Behind a value no exponent begins. -/
theorem Closes.readExponent {rest : Text} (h : Closes rest) : readExponent rest = none := by
  rcases h.cases with rfl | ⟨c, tail, rfl, hc⟩
  · rfl
  · rcases hc with rfl | rfl | rfl | rfl | rfl | rfl | rfl <;> rfl

/-- The text does not go on with a digit. -/
def EndsDigits (rest : Text) : Prop := ∀ c ∈ rest.head?, c.isDigit = false

/-- Behind a value no digit follows. -/
theorem Closes.endsDigits {rest : Text} (h : Closes rest) : EndsDigits rest := by
  rcases h.cases with rfl | ⟨c, tail, rfl, hc⟩
  · intro c hc
    cases hc
  · intro d h
    cases h
    rcases hc with rfl | rfl | rfl | rfl | rfl | rfl | rfl <;> rfl

/-- A run of digits is read up to its end. -/
theorem spanDigits_append {digits rest : Text} (hdigits : digits.IsNumeral)
    (hrest : EndsDigits rest) : spanDigits (digits ++ rest) = (digits, rest) := by
  rw [spanDigits, List.takeWhile_append_of_pos hdigits, List.dropWhile_append_of_pos hdigits]
  cases rest with
  | nil => simp
  | cons c tail => simp [hrest c rfl]

/-- Digits that do not begin with a zero. -/
structure IsLeading (digits : Text) : Prop where
  /-- There are only digits. -/
  isNumeral : digits.IsNumeral
  /-- There is a digit. -/
  ne_nil : digits ≠ []
  /-- The first one is not zero. -/
  head_ne : digits.head? ≠ some (.scalar '0')

/-- A positive number is written with leading digits. -/
theorem isLeading_ofNat {n : ℕ} (hn : n ≠ 0) : IsLeading (Text.ofNat n) :=
  ⟨Text.isNumeral_ofNat n, Text.ofNat_ne_nil n, Text.head?_ofNat hn⟩

/-- Leading digits may go on with any others. -/
theorem IsLeading.append {digits more : Text} (h : IsLeading digits) (hmore : more.IsNumeral) :
    IsLeading (digits ++ more) := by
  refine ⟨h.isNumeral.append hmore, by simp [h.ne_nil], ?_⟩
  rw [List.head?_append_of_ne_nil _ h.ne_nil]
  exact h.head_ne

/-- The first of leading digits are leading digits. -/
theorem IsLeading.take {digits : Text} (h : IsLeading digits) {k : ℕ} (hk : k ≠ 0) :
    IsLeading (digits.take k) := by
  refine ⟨fun c hc => h.isNumeral c (List.mem_of_mem_take hc), ?_, ?_⟩
  · rw [ne_eq, List.take_eq_nil_iff, not_or]
    exact ⟨hk, h.ne_nil⟩
  · rw [List.head?_take, if_neg hk]
    exact h.head_ne

/-- The rest of leading digits are digits. -/
theorem IsLeading.drop {digits : Text} (h : IsLeading digits) (k : ℕ) :
    Text.IsNumeral (digits.drop k) := fun c hc => h.isNumeral c (List.mem_of_mem_drop hc)

/-- The digits of a number that may stand in front of its point: a single zero, or
leading digits. -/
def IsWhole (whole : Text) : Prop := whole = [.scalar '0'] ∨ IsLeading whole

/-- The numeral of a natural number may stand in front of a point. -/
theorem isWhole_ofNat (n : ℕ) : IsWhole (Text.ofNat n) := by
  by_cases hn : n = 0
  · exact Or.inl (by rw [hn]; rfl)
  · exact Or.inr (isLeading_ofNat hn)

/-- The digits in front of a point are read up to their end. -/
theorem readWhole_append {whole rest : Text} (h : IsWhole whole) (hrest : EndsDigits rest) :
    readWhole (whole ++ rest) = some (whole, rest) := by
  rcases h with rfl | hleading
  · rfl
  · have hother : readWhole (whole ++ rest) =
        if (spanDigits (whole ++ rest)).1.isEmpty then none
        else some (spanDigits (whole ++ rest)) := by
      obtain ⟨c, tail, rfl⟩ := List.exists_cons_of_ne_nil hleading.ne_nil
      rw [readWhole.eq_def]
      split
      · rename_i tail' hsplit
        cases hsplit
        exact absurd rfl hleading.head_ne
      · rfl
    rw [hother, spanDigits_append hleading.isNumeral hrest]
    exact if_neg (by simpa using hleading.ne_nil)

/-- The digits behind a point are read up to their end. -/
theorem readFraction_append {digits rest : Text} (hdigits : digits.IsNumeral)
    (hne : digits ≠ []) (hrest : EndsDigits rest) :
    readFraction (.scalar '.' :: (digits ++ rest)) = some (digits, rest) := by
  simp [readFraction, spanDigits_append hdigits hrest, hne]

/-- An exponent is read up to its end. -/
theorem readExponent_append (negative : Bool) {digits rest : Text} (hdigits : digits.IsNumeral)
    (hne : digits ≠ []) (hrest : EndsDigits rest) :
    readExponent (.scalar 'e' :: .scalar (if negative then '-' else '+') :: (digits ++ rest)) =
      some (if negative then -(Text.toNat digits : ℤ) else Text.toNat digits, rest) := by
  cases negative <;> simp [readExponent, readSign, spanDigits_append hdigits hrest, hne]

/-- Digits alone are read as an integer. -/
theorem readMagnitude_int (negative : Bool) {whole rest : Text} (h : IsWhole whole)
    (hlength : whole.length ≤ digitBound) (hrest : Closes rest) :
    readMagnitude negative (whole ++ rest) =
      .ok (.int (if negative then -(Text.toNat whole : ℤ) else Text.toNat whole), rest) := by
  rw [readMagnitude, readWhole_append h hrest.endsDigits]
  simp only [hrest.readFraction, hrest.readExponent, if_neg (Nat.not_lt.mpr hlength)]

/-- Digits on both sides of a point are read as a decimal. -/
theorem readMagnitude_positional (negative : Bool) {whole fraction rest : Text}
    (h : IsWhole whole) (hfraction : fraction.IsNumeral) (hne : fraction ≠ [])
    (hrest : Closes rest) :
    readMagnitude negative (whole ++ .scalar '.' :: (fraction ++ rest)) =
      .ok (.float (.ofDecimal negative (Text.toNat (whole ++ fraction)) (-fraction.length)),
        rest) := by
  have hpoint : EndsDigits (.scalar '.' :: (fraction ++ rest)) := by
    intro c h
    cases h
    rfl
  rw [readMagnitude, readWhole_append h hpoint]
  simp only [readFraction_append hfraction hne hrest.endsDigits, hrest.readExponent]

/-- The digits behind a point, with the point in front of them unless there are none. -/
def withPoint (fraction : Text) : Text :=
  if fraction = [] then [] else .scalar '.' :: fraction

/-- Digits with an exponent are read as a decimal. -/
theorem readMagnitude_exponential (negative small : Bool) {whole fraction power rest : Text}
    (h : IsWhole whole) (hfraction : fraction.IsNumeral) (hpower : power.IsNumeral)
    (hne : power ≠ []) (hrest : Closes rest) :
    readMagnitude negative (whole ++ (withPoint fraction ++
      .scalar 'e' :: .scalar (if small then '-' else '+') :: (power ++ rest))) =
      .ok (.float (.ofDecimal negative (Text.toNat (whole ++ fraction))
        ((if small then -(Text.toNat power : ℤ) else Text.toNat power) - fraction.length)),
        rest) := by
  have hmark : ∀ behind, EndsDigits (.scalar 'e' :: behind) := by
    intro behind c h
    cases h
    rfl
  have hexponent := readExponent_append small hpower hne hrest.endsDigits
  by_cases hnone : fraction = []
  · have hfree : ∀ behind, readFraction (.scalar 'e' :: behind) = none := fun _ => rfl
    rw [withPoint, if_pos hnone, List.nil_append, readMagnitude, readWhole_append h (hmark _)]
    simp only [hfree, hexponent, hnone, List.append_nil, List.length_nil]
  · have hpoint : ∀ behind, EndsDigits (.scalar '.' :: behind) := by
      intro behind c h
      cases h
      rfl
    rw [withPoint, if_neg hnone, List.cons_append, readMagnitude, readWhole_append h (hpoint _)]
    simp only [readFraction_append hfraction hnone (hmark _), hexponent]

/-- Zeros behind the digits are read as a power of ten. -/
theorem readMagnitude_zeros (negative : Bool) {digits rest : Text} (h : IsLeading digits)
    (k : ℕ) (hrest : Closes rest) :
    readMagnitude negative (digits ++ List.replicate k (.scalar '0') ++ (".0" : Text) ++ rest) =
      .ok (.float (.ofDecimal negative (Text.toNat digits) k), rest) := by
  have hwhole : IsWhole (digits ++ List.replicate k (.scalar '0')) :=
    Or.inr (h.append (Text.isNumeral_zeros k))
  have hvalue : Binary64.ofDecimal negative
      (Text.toNat (digits ++ List.replicate k (.scalar '0') ++ [.scalar '0'])) (-1) =
      .ofDecimal negative (Text.toNat digits) k := by
    have hzero : Text.toNat [.scalar '0'] = 0 := rfl
    rw [Binary64.ofDecimal_eq_nearest, Binary64.ofDecimal_eq_nearest, Text.toNat_append,
      Text.toNat_append, Text.toNat_zeros, List.length_replicate]
    congr 1
    rw [hzero, List.length_singleton, add_zero, add_zero, zpow_natCast]
    push_cast
    ring
  have hread := readMagnitude_positional negative hwhole (Text.isNumeral_zeros 1) (by simp) hrest
  rw [List.length_replicate] at hread
  rw [List.append_assoc, ← hvalue]
  exact hread

/-- A point inside the digits counts those behind it. -/
theorem readMagnitude_inside (negative : Bool) {digits rest : Text} (h : IsLeading digits)
    {k : ℕ} (hk : k ≠ 0) (hlength : k < digits.length) (hrest : Closes rest) :
    readMagnitude negative (digits.take k ++ ("." : Text) ++ digits.drop k ++ rest) =
      .ok (.float (.ofDecimal negative (Text.toNat digits) ((k : ℤ) - digits.length)), rest) := by
  have hbehind : digits.drop k ≠ [] := by
    rw [ne_eq, List.drop_eq_nil_iff]
    omega
  have hplaces : -((digits.length - k : ℕ) : ℤ) = (k : ℤ) - digits.length := by omega
  have hread := readMagnitude_positional negative (Or.inr (h.take hk)) (h.drop k) hbehind hrest
  rw [List.take_append_drop, List.length_drop, hplaces] at hread
  rw [List.append_assoc, List.append_assoc]
  exact hread

/-- Zeros between the point and the digits count as further places. -/
theorem readMagnitude_fraction (negative : Bool) {digits rest : Text} (h : IsLeading digits)
    (k : ℕ) (hrest : Closes rest) :
    readMagnitude negative (("0." : Text) ++ List.replicate k (.scalar '0') ++ digits ++ rest) =
      .ok (.float (.ofDecimal negative (Text.toNat digits) (-(k : ℤ) - digits.length)), rest) := by
  have hzero : Text.toNat [.scalar '0'] = 0 := rfl
  have hplaces : -((k + digits.length : ℕ) : ℤ) = -(k : ℤ) - digits.length := by omega
  have hread := readMagnitude_positional negative (Or.inl rfl)
    ((Text.isNumeral_zeros k).append h.isNumeral) (by simp [h.ne_nil]) hrest
  rw [Text.toNat_append, Text.toNat_append, Text.toNat_zeros, List.length_append,
    List.length_replicate, Nat.zero_mul, Nat.zero_add, hzero, Nat.zero_mul, Nat.zero_add,
    hplaces] at hread
  rw [List.append_assoc, List.append_assoc, ← List.append_assoc (List.replicate _ _)]
  exact hread

/-- An exponent behind the first digit counts the digits behind the point. -/
theorem readMagnitude_power (f : NumberNotation) (negative : Bool) {digits rest : Text}
    (h : IsLeading digits) (power : ℤ) (hrest : Closes rest) :
    readMagnitude negative (digits.take 1 ++
      (if digits.length = 1 then [] else ("." : Text) ++ digits.drop 1) ++ ("e" : Text) ++
      (if power < 0 then ("-" : Text) else ("+" : Text)) ++
      Text.ofNatPadded f.exponentWidth power.natAbs ++ rest) =
      .ok (.float (.ofDecimal negative (Text.toNat digits)
        (power + 1 - digits.length)), rest) := by
  have hlength : 0 < digits.length := List.length_pos_iff.mpr h.ne_nil
  have hread := readMagnitude_exponential negative (decide (power < 0))
    (Or.inr (h.take one_ne_zero)) (h.drop 1)
    (Text.isNumeral_ofNatPadded f.exponentWidth power.natAbs)
    (Text.ofNatPadded_ne_nil f.exponentWidth power.natAbs) hrest
  rw [List.take_append_drop, List.length_drop, Text.toNat_ofNatPadded] at hread
  have hpower : (if decide (power < 0) = true then -(power.natAbs : ℤ) else power.natAbs) -
      (digits.length - 1 : ℕ) = power + 1 - digits.length := by
    split <;> simp only [decide_eq_true_eq] at * <;> omega
  rw [hpower] at hread
  rw [← hread]
  congr 1
  have hpoint : (if digits.length = 1 then [] else ("." : Text) ++ digits.drop 1) =
      withPoint (digits.drop 1) := by
    by_cases hone : digits.length = 1
    · rw [if_pos hone, withPoint, if_pos (List.drop_eq_nil_of_le hone.le)]
    · rw [if_neg hone, withPoint, if_neg (by rw [List.drop_eq_nil_iff]; omega)]
      rfl
  rw [hpoint]
  by_cases hneg : power < 0
  · simp only [hneg, if_true, decide_true, List.append_assoc]
    rfl
  · simp only [hneg, if_false, decide_false, List.append_assoc]
    rfl

/-- A decimal that is laid out is read as the number nearest to it. -/
theorem readMagnitude_layout (f : NumberNotation) (negative : Bool) {d : Decimal} {rest : Text}
    (hd : d.digits ≠ 0) (hrest : Closes rest) :
    readMagnitude negative (f.layout d ++ rest) =
      .ok (.float (.ofDecimal negative d.digits d.exponent), rest) := by
  obtain ⟨n, e⟩ := d
  have hleading := isLeading_ofNat hd
  have hvalue : Text.toNat (Text.ofNat n) = n := Text.toNat_ofNat n
  simp only [NumberNotation.layout]
  generalize Text.ofNat n = digits at hleading hvalue ⊢
  rw [← hvalue]
  split
  · split
    · rename_i _ he
      obtain ⟨k, rfl⟩ := Int.eq_ofNat_of_zero_le he
      exact readMagnitude_zeros negative hleading k hrest
    · split
      · rename_i _ he hpoint
        obtain ⟨k, hk⟩ := Int.eq_ofNat_of_zero_le hpoint.le
        obtain rfl : e = (k : ℤ) - digits.length := by omega
        rw [hk, Int.toNat_natCast]
        exact readMagnitude_inside negative hleading (by omega) (by omega) hrest
      · rename_i _ he hpoint
        obtain ⟨k, hk⟩ := Int.eq_ofNat_of_zero_le (neg_nonneg.mpr (not_lt.mp hpoint))
        obtain rfl : e = -(k : ℤ) - digits.length := by omega
        rw [hk, Int.toNat_natCast]
        exact readMagnitude_fraction negative hleading k hrest
  · have hread := readMagnitude_power f negative hleading ((digits.length : ℤ) + e - 1) hrest
    have hplaces : (digits.length : ℤ) + e - 1 + 1 - digits.length = e := by omega
    rw [hplaces] at hread
    exact hread

/-- What is read as a magnitude begins with a digit. -/
theorem isDigit_of_readMagnitude {negative : Bool} {t : Text} {reading : Json × Text}
    (h : readMagnitude negative t = .ok reading) :
    ∃ c tail, t = c :: tail ∧ c.isDigit = true := by
  cases t with
  | nil => cases h
  | cons c tail =>
    refine ⟨c, tail, rfl, ?_⟩
    by_contra hdigit
    have hspan : (spanDigits (c :: tail)).1 = [] := List.takeWhile_cons_of_neg hdigit
    have hwhole : readWhole (c :: tail) = none := by
      rw [readWhole.eq_def]
      split
      · rename_i hzero
        cases hzero
        exact absurd rfl hdigit
      · simp [hspan]
    rw [readMagnitude, hwhole] at h
    cases h

/-- A digit begins none of the words. -/
theorem words_of_isDigit {c : CodePoint} (h : c.isDigit = true) (tail : Text) :
    (words.findSome? fun (word, value) =>
      (dropWord? word (c :: tail)).map fun rest => (value, rest)) = none := by
  have hne : ∀ d : Char, d.isDigit = false → CodePoint.scalar d ≠ c := by
    intro d hd h
    subst h
    rw [CodePoint.isDigit, hd] at h
    cases h
  simp [words, dropWord?, Text.ofString, hne]

/-- Behind a minus sign a digit is no part of a word. -/
theorem words_of_minus {c : CodePoint} (h : c.isDigit = true) (tail : Text) :
    (words.findSome? fun (word, value) =>
      (dropWord? word (.scalar '-' :: c :: tail)).map fun rest => (value, rest)) = none := by
  have hne : CodePoint.scalar 'I' ≠ c := by
    intro h
    subst h
    cases h
  simp [words, dropWord?, Text.ofString, hne]

/-- What begins with a digit is read as a magnitude. -/
theorem readAtom_of_isDigit {c : CodePoint} (h : c.isDigit = true) (tail : Text) :
    readAtom (c :: tail) = readMagnitude false (c :: tail) := by
  rw [readAtom, words_of_isDigit h tail]
  intro rest hminus
  cases hminus
  cases h

/-- A digit behind a minus sign begins a magnitude. -/
theorem readAtom_minus_of_isDigit {c : CodePoint} (h : c.isDigit = true) (tail : Text) :
    readAtom (.scalar '-' :: c :: tail) = readMagnitude true (c :: tail) := by
  rw [readAtom, words_of_minus h tail]

/-- A magnitude is read as a value. -/
theorem readAtom_of_readMagnitude {t : Text} {reading : Json × Text}
    (h : readMagnitude false t = .ok reading) : readAtom t = .ok reading := by
  obtain ⟨c, tail, rfl, hdigit⟩ := isDigit_of_readMagnitude h
  rw [readAtom_of_isDigit hdigit, h]

/-- A magnitude behind a minus sign is read as a value. -/
theorem readAtom_of_minus {t : Text} {reading : Json × Text}
    (h : readMagnitude true t = .ok reading) : readAtom (.scalar '-' :: t) = .ok reading := by
  obtain ⟨c, tail, rfl, hdigit⟩ := isDigit_of_readMagnitude h
  rw [readAtom_minus_of_isDigit hdigit, h]

/-- An integer of at most as many digits as are converted is read as itself. -/
theorem readAtom_ofInt {n : ℤ} {rest : Text} (hn : n.natAbs < 10 ^ digitBound)
    (hrest : Closes rest) : readAtom (Text.ofInt n ++ rest) = .ok (.int n, rest) := by
  have hread := fun negative => readMagnitude_int negative (isWhole_ofNat n.natAbs)
    ((Text.length_ofNat_le (by decide)).mpr hn) hrest
  rw [Text.toNat_ofNat] at hread
  by_cases hneg : n < 0
  · have hvalue : -(n.natAbs : ℤ) = n := by omega
    rw [Text.ofInt, if_pos hneg, List.cons_append]
    apply readAtom_of_minus
    rw [hread true, if_pos rfl, hvalue]
  · have hvalue : (n.natAbs : ℤ) = n := by omega
    rw [Text.ofInt, if_neg hneg]
    apply readAtom_of_readMagnitude
    rw [hread false, if_neg Bool.false_ne_true, hvalue]

/-- A number is read as itself; what is not finite is written as a word. -/
theorem readAtom_float (x : Binary64) {rest : Text} (hrest : Closes rest) :
    readAtom (NumberNotation.json.write x ++ rest) = .ok (.float x, rest) := by
  cases x with
  | nan => rfl
  | infinite negative => cases negative <;> rfl
  | finite negative m e h =>
    have hmagnitude : readMagnitude negative ((if m = 0 then ("0.0" : Text) else
        NumberNotation.json.layout (Decimal.shortest m e)) ++ rest) =
        .ok (.float (.finite negative m e h), rest) := by
      by_cases hm : m = 0
      · have he : e = -1074 := by
          obtain ⟨-, -, -, hfull⟩ := h
          omega
        subst hm he
        exact readMagnitude_positional negative (Or.inl rfl) (Text.isNumeral_zeros 1) (by simp)
          hrest
      · rw [if_neg hm, readMagnitude_layout _ negative (Decimal.digits_shortest_ne_zero h hm) hrest,
          Decimal.ofDecimal_shortest negative h hm]
    cases negative with
    | true => exact readAtom_of_minus hmagnitude
    | false => exact readAtom_of_readMagnitude hmagnitude

end CommandDocs.Json
