import CommandDocs.Json.Value
import CommandDocs.Text.Basic

/-!
# Reading JSON

A strict reader for JSON texts, which also knows the words `NaN` and `Infinity`.
It fails at the first fault in reading order. Nesting is bounded; the bound is
what the reader recurs on. Integers are bounded in their number of digits.
-/

namespace CommandDocs

/-- Why a text is not read as JSON, or a value not written. -/
inductive JsonError where
  /-- The text is not JSON. -/
  | malformed
  /-- Arrays and objects are nested beyond the bound. -/
  | tooDeep
  /-- An integer has more digits than are converted. The reader tells how many; the writer
  does not count them. -/
  | tooManyDigits (count : Option Nat)
  deriving DecidableEq

namespace Json

/-- Arrays and objects may be nested this deep. The bound of the program is that of its call
stack, which moves a little with the depth from which the reader is called; texts that are
nested less than a few hundred deep are within it and those nested thousands deep are not. -/
def nestingBound : Nat := 990

/-- Integers that are read or written may have this many digits. -/
def digitBound : Nat := 4300

/-- The four blanks of JSON. -/
def isGap (c : CodePoint) : Bool :=
  c == .scalar ' ' || c == .scalar '\t' || c == .scalar '\n' || c == .scalar '\r'

/-- Skip blanks. -/
def skipGap (t : Text) : Text := t.dropWhile isGap

/-- The value of a hexadecimal digit. -/
def hexDigit? : CodePoint → Option Nat
  | .scalar c =>
    if '0' ≤ c ∧ c ≤ '9' then some (c.toNat - 48)
    else if 'a' ≤ c ∧ c ≤ 'f' then some (c.toNat - 87)
    else if 'A' ≤ c ∧ c ≤ 'F' then some (c.toNat - 55)
    else none
  | .surrogate _ => none

/-- The code point that four hexadecimal digits name. -/
def hexCodePoint? (a b c d : CodePoint) : Option CodePoint := do
  let n := ((← hexDigit? a) * 16 + (← hexDigit? b)) * 256 +
    ((← hexDigit? c) * 16 + (← hexDigit? d))
  some (CodePoint.ofValue n)

/-- The code point that one character behind a backslash stands for. -/
def shortEscape? : CodePoint → Option CodePoint
  | .scalar '\x22' => some (.scalar '\x22')
  | .scalar '\\' => some (.scalar '\\')
  | .scalar '/' => some (.scalar '/')
  | .scalar 'b' => some (.scalar '\x08')
  | .scalar 'f' => some (.scalar '\x0c')
  | .scalar 'n' => some (.scalar '\n')
  | .scalar 'r' => some (.scalar '\r')
  | .scalar 't' => some (.scalar '\t')
  | _ => none

/-- A character of a string. -/
structure Character where
  /-- The code point that it stands for. -/
  codePoint : CodePoint
  /-- Is it written by its number? -/
  isNumbered : Bool

/-- Put a character before those that were read. -/
def prepend (c : Character) :
    Except JsonError (List Character × Text) → Except JsonError (List Character × Text)
  | .ok (characters, rest) => .ok (c :: characters, rest)
  | .error e => .error e

/-- Read the characters of a string up to its closing quote, each escape as one
of them. -/
def readCharacters : Text → Except JsonError (List Character × Text)
  | [] => .error .malformed
  | .scalar '\x22' :: rest => .ok ([], rest)
  | .scalar '\\' :: .scalar 'u' :: a :: b :: c :: d :: rest =>
    match hexCodePoint? a b c d with
    | none => .error .malformed
    | some e => prepend ⟨e, true⟩ (readCharacters rest)
  | .scalar '\\' :: c :: rest =>
    match shortEscape? c with
    | none => .error .malformed
    | some e => prepend ⟨e, false⟩ (readCharacters rest)
  | c :: rest =>
    if c.value < 0x20 then .error .malformed else prepend ⟨c, false⟩ (readCharacters rest)

/-- Two characters that encode one code point: a high surrogate and a low one behind
it, both written by their numbers. -/
def areSurrogatePair (c d : Character) : Bool :=
  c.isNumbered && d.isNumbered && decide (0xD800 ≤ c.codePoint.value ∧
    c.codePoint.value < 0xDC00 ∧ 0xDC00 ≤ d.codePoint.value ∧ d.codePoint.value < 0xE000)

/-- The text of the characters, in which each pair of surrogates is joined to the code
point that the two encode. -/
def joinSurrogates : List Character → Text
  | [] => []
  | [c] => [c.codePoint]
  | c :: d :: rest =>
    if areSurrogatePair c d then
      CodePoint.ofValue (0x10000 + (c.codePoint.value - 0xD800) * 0x400 +
        (d.codePoint.value - 0xDC00)) :: joinSurrogates rest
    else c.codePoint :: joinSurrogates (d :: rest)

/-- Read a string behind its opening quote. -/
def readString (t : Text) : Except JsonError (Text × Text) :=
  match readCharacters t with
  | .ok (characters, rest) => .ok (joinSurrogates characters, rest)
  | .error e => .error e

/-- Leading digits and what follows them. -/
def spanDigits (t : Text) : Text × Text :=
  (t.takeWhile CodePoint.isDigit, t.dropWhile CodePoint.isDigit)

/-- The fraction digits behind a point, when there are any. -/
def readFraction : Text → Option (Text × Text)
  | .scalar '.' :: rest =>
    let (digits, behind) := spanDigits rest
    if digits.isEmpty then none else some (digits, behind)
  | _ => none

/-- The sign in front of an exponent. -/
def readSign : Text → Bool × Text
  | .scalar '-' :: rest => (true, rest)
  | .scalar '+' :: rest => (false, rest)
  | rest => (false, rest)

/-- The exponent behind its mark, when there are digits. -/
def readExponent : Text → Option (Int × Text)
  | .scalar mark :: rest =>
    if mark = 'e' ∨ mark = 'E' then
      let (negative, rest) := readSign rest
      let (digits, behind) := spanDigits rest
      if digits.isEmpty then none
      else some (if negative then -(Text.toNat digits : Int) else Text.toNat digits, behind)
    else none
  | _ => none

/-- The digits before the point: a single zero, or digits that do not start with
one. -/
def readWhole : Text → Option (Text × Text)
  | .scalar '0' :: rest => some ("0", rest)
  | t =>
    let (digits, behind) := spanDigits t
    if digits.isEmpty then none else some (digits, behind)

/-- Read a number without its minus sign. A fraction or an exponent that is not
complete is left for the reader that follows. -/
def readMagnitude (negative : Bool) (t : Text) : Except JsonError (Json × Text) :=
  match readWhole t with
  | none => .error .malformed
  | some (whole, rest) =>
    let (fraction, rest, hasFraction) := match readFraction rest with
      | some (digits, behind) => (digits, behind, true)
      | none => ([], rest, false)
    match readExponent rest, hasFraction with
    | none, false =>
      if digitBound < whole.length then .error (.tooManyDigits (some whole.length))
      else
        let n : Int := Text.toNat whole
        .ok (.int (if negative then -n else n), rest)
    | none, true =>
      .ok (.float (.ofDecimal negative (Text.toNat (whole ++ fraction)) (-fraction.length)), rest)
    | some (exponent, behind), _ =>
      .ok (.float (.ofDecimal negative (Text.toNat (whole ++ fraction))
        (exponent - fraction.length)), behind)

/-- What follows a word at the beginning of the text. -/
def dropWord? (word t : Text) : Option Text :=
  if word.isPrefixOf t then some (t.drop word.length) else none

/-- The words and their values. -/
def words : List (Text × Json) :=
  [("null", .null), ("true", .bool true), ("false", .bool false), ("NaN", .float .nan),
    ("Infinity", .float (.infinite false)), ("-Infinity", .float (.infinite true))]

/-- Read a word or a number. -/
def readAtom (t : Text) : Except JsonError (Json × Text) :=
  match words.findSome? fun (word, value) => (dropWord? word t).map fun rest => (value, rest) with
  | some reading => .ok reading
  | none => match t with
    | .scalar '-' :: rest => readMagnitude true rest
    | _ => readMagnitude false t

/-- Read the items of an array up to its bracket. Every item takes at least one
code point, so the length of the text bounds their number. -/
def readItems (readItem : Text → Except JsonError (Json × Text)) :
    Nat → Text → Except JsonError (List Json × Text)
  | 0, _ => .error .malformed
  | bound + 1, t => do
    let (item, t) ← readItem t
    match skipGap t with
    | .scalar ',' :: rest =>
      let (items, rest) ← readItems readItem bound (skipGap rest)
      .ok (item :: items, rest)
    | .scalar ']' :: rest => .ok ([item], rest)
    | _ => .error .malformed

/-- Read the name of a member and the colon behind it. -/
def readName : Text → Except JsonError (Text × Text)
  | .scalar '\x22' :: rest => do
    let (name, rest) ← readString rest
    match skipGap rest with
    | .scalar ':' :: rest => .ok (name, skipGap rest)
    | _ => .error .malformed
  | _ => .error .malformed

/-- Read the members of an object up to its brace, in the way of `readItems`. -/
def readMembers (readItem : Text → Except JsonError (Json × Text)) :
    Nat → Text → Except JsonError (List (Text × Json) × Text)
  | 0, _ => .error .malformed
  | bound + 1, t => do
    let (name, t) ← readName t
    let (value, t) ← readItem t
    match skipGap t with
    | .scalar ',' :: rest =>
      let (members, rest) ← readMembers readItem bound (skipGap rest)
      .ok ((name, value) :: members, rest)
    | .scalar '\x7d' :: rest => .ok ([(name, value)], rest)
    | _ => .error .malformed

/-- Read an array behind its opening bracket. -/
def readArray (readItem : Text → Except JsonError (Json × Text)) (t : Text) :
    Except JsonError (Json × Text) :=
  match skipGap t with
  | .scalar ']' :: rest => .ok (.array [], rest)
  | t => do
    let (items, rest) ← readItems readItem t.length t
    .ok (.array items, rest)

/-- Read an object behind its opening brace. Of members with one name the last
gives the value and the first the place. -/
def readObject (readItem : Text → Except JsonError (Json × Text)) (t : Text) :
    Except JsonError (Json × Text) :=
  match skipGap t with
  | .scalar '\x7d' :: rest => .ok (.object [], rest)
  | t => do
    let (members, rest) ← readMembers readItem t.length t
    .ok (.object (Entries.ofPairs members), rest)

/-- Read a value inside which arrays and objects may be nested to the given
depth. -/
def readValue : (depth : Nat) → Text → Except JsonError (Json × Text)
  | _, .scalar '\x22' :: rest => do
    let (t, rest) ← readString rest
    .ok (.text t, rest)
  | 0, .scalar '[' :: _ => .error .tooDeep
  | 0, .scalar '\x7b' :: _ => .error .tooDeep
  | depth + 1, .scalar '[' :: rest => readArray (readValue depth) rest
  | depth + 1, .scalar '\x7b' :: rest => readObject (readValue depth) rest
  | _, t => readAtom t

/-- The mark U+FEFF, which must not stand before a JSON text. -/
def byteOrderMark : CodePoint := .ofValue 0xFEFF

/-- Read a text that is one JSON value between blanks. -/
def read (t : Text) : Except JsonError Json :=
  if t.head? = some byteOrderMark then .error .malformed
  else do
    let (value, rest) ← readValue nestingBound (skipGap t)
    if (skipGap rest).isEmpty then .ok value else .error .malformed

end Json

end CommandDocs
