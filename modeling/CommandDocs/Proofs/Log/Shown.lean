import CommandDocs.Proofs.Json.Characters
import CommandDocs.Proofs.Json.RoundTrip
import CommandDocs.Proofs.Log.Message

/-!
# How values are shown

What a log shows for a value, as a grammar of texts. A text, a path and anything that is known only
by its text are shown as they are. All other values are shown as expressions: words, numerals,
quoted texts, and lists and tables of these between brackets. The forms that the program writes are
forms of this grammar.
-/

namespace CommandDocs

/-- Items are related place by place to what they become. -/
theorem forall₂_map_of_forall {α β : Type} {related : α → β → Prop} {f : α → β} {items : List α}
    (h : ∀ item ∈ items, related item (f item)) : List.Forall₂ related items (items.map f) :=
  List.forall₂_map_right_iff.mpr (List.forall₂_same.mpr h)

/-! ### Numerals -/

/-- The decimal numerals of integers: digits, with a minus sign before those of a negative one. -/
inductive Text.DecimalOf : ℤ → Text → Prop
  /-- The number that the digits denote. -/
  | natural {digits : Text} (h : Json.IsWhole digits) : DecimalOf (toNat digits) digits
  /-- The negative of the number that the digits denote. -/
  | negative {digits : Text} (h : Json.IsLeading digits) :
    DecimalOf (-toNat digits) (.scalar '-' :: digits)

/-- Integers are written as such numerals. -/
theorem Text.decimalOf_ofInt (n : ℤ) : DecimalOf n (ofInt n) := by
  rw [ofInt]
  split
  · rename_i hn
    have h := DecimalOf.negative (Json.isLeading_ofNat (Int.natAbs_ne_zero.mpr hn.ne))
    rw [toNat_ofNat, Int.ofNat_natAbs_of_nonpos hn.le, Int.neg_neg] at h
    exact h
  · rename_i hn
    have h := DecimalOf.natural (Json.isWhole_ofNat n.natAbs)
    rw [toNat_ofNat, Int.natAbs_of_nonneg (Int.not_lt.mp hn)] at h
    exact h

/-- The numerals of floating point numbers: words for those that are not finite, and for any other a
numeral without blanks that is read as the number. -/
inductive Binary64.NumeralOf : Binary64 → Text → Prop
  /-- Not a number. -/
  | nan : NumeralOf .nan "nan"
  /-- Infinity. -/
  | infinity : NumeralOf (.infinite false) "inf"
  /-- Infinity below zero. -/
  | negativeInfinity : NumeralOf (.infinite true) "-inf"
  /-- A finite number. -/
  | finite {negative : Bool} {mantissa : ℕ} {exponent : ℤ}
    {canonical : IsCanonical mantissa exponent} {t : Text} (hplain : t.IsPlain)
    (h : Json.read t = .ok (.float (.finite negative mantissa exponent canonical))) :
    NumeralOf (.finite negative mantissa exponent canonical) t

/-- Floating point numbers are written as such numerals. -/
theorem Binary64.numeralOf_write (x : Binary64) : x.NumeralOf (NumberNotation.plain.write x) := by
  cases x with
  | nan => exact .nan
  | infinite negative =>
    cases negative with
    | false => exact .infinity
    | true => exact .negativeInfinity
  | finite negative mantissa exponent canonical =>
    have hform : (Json.float (.finite negative mantissa exponent canonical)).Everywhere
        Json.AsRead := Json.everywhere_of_isAtom trivial trivial
    have hread := Json.read_write Json.isBlank_indented hform trivial (List.forall_mem_nil _)
    rw [List.append_nil] at hread
    exact .finite (NumberNotation.isPlain_write (by decide) (by decide) _) hread

/-- The last hexadecimal digits of a number. -/
def Text.lastHexDigits : ℕ → ℕ → Text
  | 0, _ => []
  | width + 1, n => lastHexDigits width (n / 16) ++ [.scalar (n % 16).digitChar]

/-- The digits of zero are zeros. -/
theorem Text.lastHexDigits_zero (width : ℕ) :
    lastHexDigits width 0 = List.replicate width (.scalar '0') := by
  induction width with
  | zero => rfl
  | succ width ih =>
    rw [lastHexDigits, Nat.zero_div, ih, List.replicate_succ']
    rfl

/-- A number that is small enough is written with these digits. -/
theorem Text.ofNatHex_eq_lastHexDigits {width n : ℕ} (hwidth : 0 < width) (hn : n < 16 ^ width) :
    ofNatHex width n = lastHexDigits width n := by
  induction width generalizing n with
  | zero => exact absurd hwidth (Nat.lt_irrefl 0)
  | succ width ih =>
    rw [lastHexDigits]
    by_cases hsmall : n < 16
    · rw [Nat.div_eq_of_lt hsmall, lastHexDigits_zero, Nat.mod_eq_of_lt hsmall, ofNatHex,
        Nat.toDigits_of_lt_base hsmall]
      rfl
    · have hrest : n / 16 < 16 ^ width := Nat.div_lt_of_lt_mul (by rwa [← Nat.pow_succ'])
      have hwidth : 0 < width := by
        by_contra hzero
        rw [Nat.eq_zero_of_not_pos hzero] at hrest
        omega
      rw [← ih hwidth hrest, ofNatHex, ofNatHex,
        Nat.toDigits_of_base_le (by decide) (Nat.not_lt.mp hsmall)]
      simp only [List.map_append, List.length_append, List.map_cons, List.map_nil,
        List.length_singleton, Nat.add_sub_add_right, List.append_assoc]

/-! ### Quotes -/

/-- The forms of a code point between quotation marks. -/
inductive Text.FormOf (mark : CodePoint) : CodePoint → Text → Prop
  /-- The mark and the backslash stand behind a backslash. -/
  | escaped {c : CodePoint} (h : c = mark ∨ c = .scalar '\\') : FormOf mark c [.scalar '\\', c]
  /-- The newline. -/
  | newline : FormOf mark (.scalar '\n') "\\n"
  /-- The carriage return. -/
  | carriageReturn : FormOf mark (.scalar '\r') "\\r"
  /-- The tabulator. -/
  | tabulator : FormOf mark (.scalar '\t') "\\t"
  /-- What can be printed stands for itself. -/
  | printed {c : CodePoint} (hmark : c ≠ mark) (hbackslash : c ≠ .scalar '\\')
    (h : c.isPrintable = true) : FormOf mark c [c]
  /-- Anything else has a number of two digits. -/
  | short {c : CodePoint} (hcontrol : c ∉ [CodePoint.scalar '\n', .scalar '\r', .scalar '\t'])
    (h : c.isPrintable = false) (hvalue : c.value < 0x100) :
    FormOf mark c ("\\x" ++ lastHexDigits 2 c.value)
  /-- Or it has one of four digits. -/
  | medium {c : CodePoint} (h : c.isPrintable = false) (hleast : 0x100 ≤ c.value)
    (hvalue : c.value < 0x10000) : FormOf mark c ("\\u" ++ lastHexDigits 4 c.value)
  /-- Or it has one of eight digits. -/
  | long {c : CodePoint} (h : c.isPrintable = false) (hleast : 0x10000 ≤ c.value) :
    FormOf mark c ("\\U" ++ lastHexDigits 8 c.value)

/-- The quotes of a text: between single marks, or between double ones if the text holds single
ones and no double one. -/
inductive Text.QuoteOf (t : Text) : Text → Prop
  /-- Between single marks. -/
  | single {forms : List Text} (hmark : CodePoint.scalar '\x27' ∉ t ∨ CodePoint.scalar '\x22' ∈ t)
    (h : List.Forall₂ (FormOf (.scalar '\x27')) t forms) :
    QuoteOf t (.scalar '\x27' :: forms.flatten ++ [.scalar '\x27'])
  /-- Between double marks. -/
  | double {forms : List Text} (hsingle : CodePoint.scalar '\x27' ∈ t)
    (hdouble : CodePoint.scalar '\x22' ∉ t)
    (h : List.Forall₂ (FormOf (.scalar '\x22')) t forms) :
    QuoteOf t (.scalar '\x22' :: forms.flatten ++ [.scalar '\x22'])

/-- Code points are written in such forms. -/
theorem Text.formOf_quotedForm (mark c : CodePoint) : FormOf mark c (quotedForm mark c) := by
  have hbound : c.value < 16 ^ 8 := by
    cases c with
    | scalar c => exact c.val.toNat_lt
    | surrogate k => exact Nat.lt_trans (Nat.add_lt_add_left k.isLt _) (by decide)
  rw [quotedForm]
  split
  · rename_i hescaped
    exact .escaped (by simpa using hescaped)
  rename_i hescaped
  rw [Bool.or_eq_true, decide_eq_true_iff, decide_eq_true_iff, not_or] at hescaped
  split
  · rename_i h
    rw [h]
    exact .newline
  split
  · rename_i h
    rw [h]
    exact .carriageReturn
  split
  · rename_i h
    rw [h]
    exact .tabulator
  rename_i hnewline hreturn htabulator
  split
  · rename_i hprintable
    exact .printed hescaped.1 hescaped.2 hprintable
  rename_i hprintable
  rw [Bool.not_eq_true] at hprintable
  split
  · rename_i hvalue
    rw [ofNatHex_eq_lastHexDigits (by decide) hvalue]
    exact .short (by simp [hnewline, hreturn, htabulator]) hprintable hvalue
  rename_i hshort
  split
  · rename_i hvalue
    rw [ofNatHex_eq_lastHexDigits (by decide) hvalue]
    exact .medium hprintable (Nat.not_lt.mp hshort) hvalue
  · rename_i hmedium
    rw [ofNatHex_eq_lastHexDigits (by decide) hbound]
    exact .long hprintable (Nat.not_lt.mp hmedium)

/-- Texts are quoted so. -/
theorem Text.quoteOf_quote (t : Text) : QuoteOf t t.quote := by
  have hforms (mark : CodePoint) : List.Forall₂ (FormOf mark) t (t.map (quotedForm mark)) :=
    forall₂_map_of_forall fun c _ => formOf_quotedForm mark c
  rw [quote, quotationMark]
  split
  · rename_i hmark
    rw [Bool.and_eq_true, Bool.not_eq_true', List.contains_iff_mem, ← Bool.not_eq_true,
      List.contains_iff_mem] at hmark
    exact .double hmark.1 hmark.2 (hforms _)
  · rename_i hmark
    refine .single ?_ (hforms _)
    rw [Bool.and_eq_true, Bool.not_eq_true', List.contains_iff_mem, ← Bool.not_eq_true,
      List.contains_iff_mem] at hmark
    by_cases hsingle : CodePoint.scalar '\x27' ∈ t
    · exact Or.inr (not_not.mp fun hdouble => hmark ⟨hsingle, hdouble⟩)
    · exact Or.inl hsingle

/-! ### Expressions -/

/-- A name and what is shown for it, with a colon between them. -/
def Text.named (name shown : Text) : Text := name ++ ": " ++ shown

/-- The text of a value that is a text, or known only by one. -/
def LogValue.text? : LogValue → Option Text
  | .text t => some t
  | .path p => some p.toText
  | .other shown => some shown
  | _ => none

/-- The expressions of values that hold no others. -/
inductive LogValue.AtomOf : LogValue → Text → Prop
  /-- The null value. -/
  | null : AtomOf .null "None"
  /-- The value true. -/
  | true : AtomOf (.bool true) "True"
  /-- The value false. -/
  | false : AtomOf (.bool false) "False"
  /-- An integer. -/
  | int {n : ℤ} {t : Text} (h : Text.DecimalOf n t) : AtomOf (.int n) t
  /-- A floating point number. -/
  | float {x : Binary64} {t : Text} (h : x.NumeralOf t) : AtomOf (.float x) t
  /-- A text, or what is known only by one, is quoted. -/
  | text {value : LogValue} {t quoted : Text} (ht : value.text? = some t) (h : t.QuoteOf quoted) :
    AtomOf value quoted

namespace LogKey

/-- The value that a key is, if it is one that holds no others. -/
def value? : LogKey → Option LogValue
  | .null => some .null
  | .bool b => some (.bool b)
  | .int n => some (.int n)
  | .float x => some (.float x)
  | .text t => some (.text t)
  | _ => none

/-- The text of a key that is a text, or known only by one. -/
def text? : LogKey → Option Text
  | .text t => some t
  | .path p => some p.toText
  | .error shown => some shown
  | _ => none

/-- The expressions of keys. -/
inductive ExpressionOf : LogKey → Text → Prop
  /-- A value that holds no others. -/
  | value {key : LogKey} {value : LogValue} {t : Text} (hvalue : key.value? = some value)
    (h : value.AtomOf t) : ExpressionOf key t
  /-- A path. -/
  | path {p : Path} {quoted : Text} (h : p.toText.QuoteOf quoted) :
    ExpressionOf (.path p) ("PosixPath(" ++ quoted ++ ")")
  /-- An error. -/
  | error {shown quoted : Text} (h : shown.QuoteOf quoted) :
    ExpressionOf (.error shown) ("ValueError(" ++ quoted ++ ")")
  /-- A single key as a tuple. -/
  | single {item : LogKey} {t : Text} (h : ExpressionOf item t) :
    ExpressionOf (.tuple [item]) ("(" ++ t ++ ",)")
  /-- Any other number of keys. -/
  | tuple {items : List LogKey} {shown : List Text} (hlength : items.length ≠ 1)
    (h : List.Forall₂ ExpressionOf items shown) :
    ExpressionOf (.tuple items) ("(" ++ List.intercalate ", " shown ++ ")")

/-- The names that keys become: their text, if there is one, and else an expression. -/
inductive NameOf (key : LogKey) : Text → Prop
  /-- A text. -/
  | text {t : Text} (h : key.text? = some t) : NameOf key t
  /-- An expression. -/
  | expression {t : Text} (hnone : key.text? = none) (h : key.ExpressionOf t) : NameOf key t

mutual

/-- Keys are written as such expressions. -/
theorem expressionOf_expression (key : LogKey) : ExpressionOf key key.expression := by
  cases key with
  | null => exact .value rfl .null
  | bool b =>
    cases b with
    | true => exact .value rfl .true
    | false => exact .value rfl .false
  | int n => exact .value rfl (.int (Text.decimalOf_ofInt n))
  | float x => exact .value rfl (.float x.numeralOf_write)
  | text t => exact .value rfl (.text rfl t.quoteOf_quote)
  | path p => exact .path p.toText.quoteOf_quote
  | error shown => exact .error shown.quoteOf_quote
  | tuple items =>
    have hitems := forall₂_expressions items
    match items, hitems with
    | [], hitems => exact .tuple Nat.zero_ne_one hitems
    | [item], .cons hitem _ => exact .single hitem
    | _ :: _ :: _, hitems => exact .tuple (by simp) hitems

/-- So are the items of a tuple. -/
theorem forall₂_expressions (items : List LogKey) :
    List.Forall₂ ExpressionOf items (expressions items) := by
  cases items with
  | nil => exact .nil
  | cons item items => exact .cons (expressionOf_expression item) (forall₂_expressions items)

end

/-- Keys become such names. -/
theorem nameOf_toText (key : LogKey) : key.NameOf key.toText := by
  have hexpression := key.expressionOf_expression
  cases key with
  | text t => exact .text rfl
  | path p => exact .text rfl
  | error shown => exact .text rfl
  | null => exact .expression rfl hexpression
  | bool b => exact .expression rfl hexpression
  | int n => exact .expression rfl hexpression
  | float x => exact .expression rfl hexpression
  | tuple items => exact .expression rfl hexpression

end LogKey

namespace LogValue

/-- The expressions of values. -/
inductive ExpressionOf : LogValue → Text → Prop
  /-- A value that holds no others. -/
  | atom {value : LogValue} {t : Text} (h : value.AtomOf t) : ExpressionOf value t
  /-- A list. -/
  | list {items : List LogValue} {shown : List Text} (h : List.Forall₂ ExpressionOf items shown) :
    ExpressionOf (.list items) ("[" ++ List.intercalate ", " shown ++ "]")
  /-- A table. Of entries whose keys become the same name the last gives the value. -/
  | table {entries : List (LogKey × LogValue)} {names quotes shown : List Text}
    {members : Entries Text LogValue}
    (hnames : List.Forall₂ LogKey.NameOf (entries.map Prod.fst) names)
    (hmembers : members = Entries.ofPairs (names.zip (entries.map Prod.snd)))
    (hquotes : List.Forall₂ Text.QuoteOf (members.map Prod.fst) quotes)
    (hshown : List.Forall₂ ExpressionOf (members.map Prod.snd) shown) :
    ExpressionOf (.table entries)
      ("\x7b" ++ List.intercalate ", " (List.zipWith Text.named quotes shown) ++ "\x7d")

/-- What is shown for a value: its text, if there is one, and else an expression. -/
inductive ShownAs (value : LogValue) : Text → Prop
  /-- A text. -/
  | text {t : Text} (h : value.text? = some t) : ShownAs value t
  /-- An expression. -/
  | expression {t : Text} (hnone : value.text? = none) (h : value.ExpressionOf t) : ShownAs value t

/-- The items of an array are written one by one. -/
theorem itemExpressions_eq_map (items : List Json) :
    Json.itemExpressions items = items.map Json.expression := by
  induction items with
  | nil => rfl
  | cons item items ih => rw [Json.itemExpressions, ih, List.map_cons]

/-- The members of an object are written as quoted names and expressions. -/
theorem memberExpressions_mapValues (members : Entries Text LogValue) :
    Json.memberExpressions (Entries.mapValues toJson members) =
      List.zipWith Text.named ((members.map Prod.fst).map Text.quote)
        ((members.map Prod.snd).map fun value => Json.expression value.toJson) := by
  induction members with
  | nil => rfl
  | cons member members ih =>
    rw [Entries.mapValues, List.map_cons, Json.memberExpressions, ← Entries.mapValues, ih]
    rfl

/-- Values are written as such expressions. -/
theorem expressionOf_expression (value : LogValue) :
    ExpressionOf value (Json.expression value.toJson) := by
  induction value using induction with
  | atom value hatom =>
    cases value with
    | null => exact .atom .null
    | bool b =>
      cases b with
      | true => exact .atom .true
      | false => exact .atom .false
    | int n => exact .atom (.int (Text.decimalOf_ofInt n))
    | float x => exact .atom (.float x.numeralOf_write)
    | text t => exact .atom (.text rfl t.quoteOf_quote)
    | path p => exact .atom (.text rfl p.toText.quoteOf_quote)
    | other shown => exact .atom (.text rfl shown.quoteOf_quote)
    | list items => exact hatom.elim
    | table entries => exact hatom.elim
  | list items ih =>
    rw [toJson, itemsToJson_eq_map, Json.expression, itemExpressions_eq_map, List.map_map]
    exact .list (forall₂_map_of_forall ih)
  | table entries ih =>
    -- the members are put together by name while their values are still logged ones
    rw [toJson, entriesToJson_eq_map, Entries.ofPairs_mapValues, Json.expression,
      memberExpressions_mapValues]
    have hnames : List.Forall₂ LogKey.NameOf (entries.map Prod.fst)
        (entries.map fun entry => entry.1.toText) :=
      List.forall₂_map_left_iff.mpr (forall₂_map_of_forall fun entry _ => entry.1.nameOf_toText)
    refine .table hnames (congrArg Entries.ofPairs List.zip_map'.symm) ?_ ?_
    · exact forall₂_map_of_forall fun name _ => name.quoteOf_quote
    · refine forall₂_map_of_forall fun value hvalue => ?_
      obtain ⟨member, hmember, rfl⟩ := List.mem_map.mp hvalue
      obtain ⟨entry, hentry, heq⟩ := exists_entry_of_mem_ofPairs hmember
      exact heq ▸ ih entry hentry

/-- A log shows values so. -/
theorem shownAs_display (value : LogValue) : value.ShownAs value.toJson.display := by
  have hexpression := value.expressionOf_expression
  cases value with
  | text t => exact .text rfl
  | path p => exact .text rfl
  | other shown => exact .text rfl
  | null => exact .expression rfl hexpression
  | bool b => exact .expression rfl hexpression
  | int n => exact .expression rfl hexpression
  | float x => exact .expression rfl hexpression
  | list items => exact .expression rfl hexpression
  | table entries => exact .expression rfl hexpression

end LogValue

end CommandDocs
