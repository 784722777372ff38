import CommandDocs.Text.CodePoint

/-!
# Searching, splitting and joining

The elementary operations on texts: affixes, occurrences, splitting at a code
point, joining with a separator, the order by code points, and decimal numerals.
-/

namespace CommandDocs.Text

/-- Does the text begin with the marker? -/
def startsWith (t marker : Text) : Bool := marker.isPrefixOf t

/-- Does the text end with the marker? -/
def endsWith (t marker : Text) : Bool := marker.isSuffixOf t

/-- Does the marker occur anywhere in the text? -/
def hasInfix (marker : Text) : Text → Bool
  | [] => marker.isEmpty
  | c :: rest => marker.isPrefixOf (c :: rest) || hasInfix marker rest

/-- The pieces between the separators. There is always one more piece than
there are separators, so the empty text has one empty piece. -/
def splitOn (separator : CodePoint) : Text → List Text
  | [] => [[]]
  | c :: rest =>
    if c = separator then [] :: splitOn separator rest
    else match splitOn separator rest with
      | [] => [[c]]
      | piece :: pieces => (c :: piece) :: pieces

/-- The pieces in order with the separator between neighbours. -/
def join (separator : Text) (pieces : List Text) : Text := List.intercalate separator pieces

/-- Append the terminator to every line and concatenate. -/
def unlines (lines : List Text) : Text := (lines.map (· ++ ("\n" : Text))).flatten

/-- The order by code points, in which a proper prefix comes first. -/
def le : Text → Text → Bool
  | [], _ => true
  | _ :: _, [] => false
  | a :: s, b :: t => a.value < b.value || (a.value == b.value && le s t)

/-- Sort by code points, keeping the order of equal keys. -/
def sortOn {α : Type} (key : α → Text) (xs : List α) : List α :=
  xs.mergeSort fun x y => le (key x) (key y)

/-- Replace each occurrence of one code point by a text. -/
def replaceEach (target : CodePoint) (replacement t : Text) : Text :=
  t.flatMap fun c => if c = target then replacement else [c]

/-- The decimal numeral of a natural number. -/
def ofNat (n : Nat) : Text := (Nat.toDigits 10 n).map CodePoint.scalar

/-- The decimal numeral of an integer, with a minus sign when negative. -/
def ofInt (n : Int) : Text := if n < 0 then .scalar '-' :: ofNat n.natAbs else ofNat n.natAbs

/-- The natural number that a run of decimal digits denotes. -/
def toNat (digits : Text) : Nat := digits.foldl (fun n c => 10 * n + (c.value - 48)) 0

/-- A numeral padded with leading zeros to at least `width` digits. -/
def ofNatPadded (width n : Nat) : Text :=
  let digits := ofNat n
  List.replicate (width - digits.length) (.scalar '0') ++ digits

/-- The hexadecimal numeral in lower case, padded with zeros to `width` digits. -/
def ofNatHex (width n : Nat) : Text :=
  let digits := (Nat.toDigits 16 n).map CodePoint.scalar
  List.replicate (width - digits.length) (.scalar '0') ++ digits

end CommandDocs.Text
