import CommandDocs.Text.Basic

/-!
# UTF-8

Text as bytes. Encoding fails at the first surrogate. Decoding is strict: it fails
at the first byte that no well-formed text can have in that place, and says which
bytes cannot be part of one.
-/

namespace CommandDocs

/-- The content of a file. -/
abbrev Bytes := List UInt8

namespace Utf8

/-- The bytes of one code point; a surrogate has none. -/
def bytesOf : CodePoint → Bytes
  | .scalar c => String.utf8EncodeChar c
  | .surrogate _ => []

/-- The first run of surrogates in a text. -/
structure EncodeError where
  /-- Where the run begins. -/
  position : Nat
  /-- The surrogates of the run. -/
  run : Text
  deriving DecidableEq

/-- The report about surrogates: a single one is shown, several are counted. -/
def EncodeError.message (e : EncodeError) : Text :=
  let place : Text := match e.run with
    | [c] => "character '\\u" ++ Text.ofNatHex 4 c.value ++ "' in position " ++
        Text.ofNat e.position
    | run => "characters in position " ++ Text.ofNat e.position ++ "-" ++
        Text.ofNat (e.position + run.length - 1)
  "'utf-8' codec can't encode " ++ place ++ ": surrogates not allowed"

/-- Encode a text. -/
def encode (t : Text) : Except EncodeError Bytes :=
  match t.findIdx? CodePoint.isSurrogate with
  | none => .ok (t.flatMap bytesOf)
  | some i => .error ⟨i, (t.drop i).takeWhile CodePoint.isSurrogate⟩

/-- Why bytes are not UTF-8. -/
inductive Fault where
  /-- No code point begins with this byte. -/
  | invalidStart
  /-- A code point has begun and cannot go on with the next byte. -/
  | invalidContinuation
  /-- A code point has begun and the bytes end inside it. -/
  | unexpectedEnd
  deriving DecidableEq

/-- The words for a fault. -/
def Fault.message : Fault → Text
  | invalidStart => "invalid start byte"
  | invalidContinuation => "invalid continuation byte"
  | unexpectedEnd => "unexpected end of data"

/-- The first bytes that are not part of a well-formed text. -/
structure DecodeError where
  /-- Where they begin. -/
  position : Nat
  /-- The first of them. -/
  first : UInt8
  /-- How many they are. -/
  length : Nat
  /-- What is wrong with them. -/
  fault : Fault
  deriving DecidableEq

/-- The report about bytes: a single one is shown, several are counted. -/
def DecodeError.message (e : DecodeError) : Text :=
  let place : Text :=
    if e.length = 1 then
      "byte 0x" ++ Text.ofNatHex 2 e.first.toNat ++ " in position " ++ Text.ofNat e.position
    else
      "bytes in position " ++ Text.ofNat e.position ++ "-" ++
        Text.ofNat (e.position + e.length - 1)
  "'utf-8' codec can't decode " ++ place ++ ": " ++ e.fault.message

/-- A code point of which some bytes have been read. -/
structure Partial where
  /-- Where it begins. -/
  position : Nat
  /-- Its first byte. -/
  first : UInt8
  /-- How many of its bytes have been read. -/
  length : Nat
  /-- How many are still to come. -/
  missing : Nat
  /-- The least value that the next byte may have. -/
  low : Nat
  /-- The greatest value that the next byte may have. -/
  high : Nat
  /-- The number that the bytes so far contribute. -/
  value : Nat

/-- What a byte at the beginning of a longer code point announces. The range of the
second byte keeps out overlong forms, surrogates and numbers past the last code
point. -/
def begin? (position : Nat) (byte : UInt8) : Option Partial :=
  let b := byte.toNat
  let announce (missing low high value : Nat) : Option Partial :=
    some ⟨position, byte, 1, missing, low, high, value⟩
  if 0xC2 ≤ b ∧ b ≤ 0xDF then announce 1 0x80 0xBF (b - 0xC0)
  else if b = 0xE0 then announce 2 0xA0 0xBF 0
  else if b = 0xED then announce 2 0x80 0x9F 0xD
  else if 0xE1 ≤ b ∧ b ≤ 0xEF then announce 2 0x80 0xBF (b - 0xE0)
  else if b = 0xF0 then announce 3 0x90 0xBF 0
  else if 0xF1 ≤ b ∧ b ≤ 0xF3 then announce 3 0x80 0xBF (b - 0xF0)
  else if b = 0xF4 then announce 3 0x80 0x8F 4
  else none

/-- The error of a code point that does not go on. -/
def Partial.fail (p : Partial) (fault : Fault) : DecodeError :=
  ⟨p.position, p.first, p.length, fault⟩

/-- Put a code point before a decoded text. -/
def prepend (value : Nat) : Except DecodeError Text → Except DecodeError Text
  | .ok t => .ok (CodePoint.ofValue value :: t)
  | .error e => .error e

/-- Decode bytes of which the first has the given position, inside a code point or
between two. -/
def decodeFrom (position : Nat) : Option Partial → Bytes → Except DecodeError Text
  | none, [] => .ok []
  | some p, [] => .error (p.fail .unexpectedEnd)
  | none, byte :: rest =>
    if byte.toNat < 0x80 then prepend byte.toNat (decodeFrom (position + 1) none rest)
    else match begin? position byte with
      | none => .error ⟨position, byte, 1, .invalidStart⟩
      | some p => decodeFrom (position + 1) (some p) rest
  | some p, byte :: rest =>
    if p.low ≤ byte.toNat ∧ byte.toNat ≤ p.high then
      let value := p.value * 64 + (byte.toNat - 0x80)
      if p.missing = 1 then prepend value (decodeFrom (position + 1) none rest)
      else
        decodeFrom (position + 1) (some { p with
          length := p.length + 1, missing := p.missing - 1, low := 0x80, high := 0xBF,
          value := value }) rest
    else .error (p.fail .invalidContinuation)

/-- Decode bytes. -/
def decode (bytes : Bytes) : Except DecodeError Text := decodeFrom 0 none bytes

end Utf8

end CommandDocs
