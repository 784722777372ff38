import CommandDocs.Proofs.Text.CodePoint
import CommandDocs.Text.Utf8

/-!
# UTF-8 decodes what it encodes

The bytes of a code point are decoded one after the other: the first one announces how
many are to come and which range the second one is from, and each adds six bits.
-/

namespace CommandDocs.Utf8

/-- A text without surrogates is encoded code point by code point. -/
theorem encode_of_isUnicode {t : Text} (h : t.IsUnicode) : encode t = .ok (t.flatMap bytesOf) := by
  have hnone : t.findIdx? CodePoint.isSurrogate = none := by
    rw [List.findIdx?_eq_none_iff]
    exact h
  rw [encode, hnone]

/-- A text with surrogates is not encoded. -/
theorem encode_of_not_isUnicode {t : Text} (h : ¬t.IsUnicode) : ∃ e, encode t = .error e := by
  rw [encode]
  split
  · rename_i hnone
    exact absurd (List.findIdx?_eq_none_iff.mp hnone) h
  · exact ⟨_, rfl⟩

/-- What is encoded has no surrogates. -/
theorem isUnicode_of_encode {t : Text} {bytes : Bytes} (h : encode t = .ok bytes) :
    t.IsUnicode := by
  rw [encode] at h
  split at h
  · rename_i hnone
    exact List.findIdx?_eq_none_iff.mp hnone
  · cases h

variable {position : Nat} {p : Partial} {byte : UInt8} {rest : Bytes}

/-- The last byte of a code point completes it. -/
theorem decodeFrom_last (hlow : p.low ≤ byte.toNat) (hhigh : byte.toNat ≤ p.high)
    (hmissing : p.missing = 1) : decodeFrom position (some p) (byte :: rest) =
      prepend (p.value * 64 + (byte.toNat - 0x80)) (decodeFrom (position + 1) none rest) := by
  rw [decodeFrom, if_pos ⟨hlow, hhigh⟩]
  simp only [hmissing, if_true]

/-- Any other byte of a code point adds six bits to it. -/
theorem decodeFrom_more (hlow : p.low ≤ byte.toNat) (hhigh : byte.toNat ≤ p.high)
    (hmissing : p.missing ≠ 1) : decodeFrom position (some p) (byte :: rest) =
      decodeFrom (position + 1) (some { p with
        length := p.length + 1, missing := p.missing - 1, low := 0x80, high := 0xBF,
        value := p.value * 64 + (byte.toNat - 0x80) }) rest := by
  rw [decodeFrom, if_pos ⟨hlow, hhigh⟩]
  simp only [if_neg hmissing]

/-- The first byte of a longer code point is followed by the announced ones. -/
theorem decodeFrom_first (hbyte : 0x80 ≤ byte.toNat) (hbegin : begin? position byte = some p) :
    decodeFrom position none (byte :: rest) = decodeFrom (position + 1) (some p) rest := by
  rw [decodeFrom, if_neg (Nat.not_lt.mpr hbyte), hbegin]

/-- A byte from C2 to DF announces one more. -/
theorem begin?_two (hlow : 0xC2 ≤ byte.toNat) (hhigh : byte.toNat ≤ 0xDF) :
    begin? position byte = some ⟨position, byte, 1, 1, 0x80, 0xBF, byte.toNat - 0xC0⟩ := by
  simp only [begin?, if_pos (And.intro hlow hhigh)]

/-- A byte from E0 to EF announces two more, and takes every second one that makes neither
an overlong form nor a surrogate. -/
theorem begin?_three (position : Nat) (byte : UInt8) (second : Nat)
    (hlow : 0xE0 ≤ byte.toNat) (hhigh : byte.toNat ≤ 0xEF)
    (hsecond : 0x80 ≤ second ∧ second ≤ 0xBF)
    (hlong : 0x20 ≤ (byte.toNat - 0xE0) * 64 + (second - 0x80))
    (hscalar : (byte.toNat - 0xE0) * 64 + (second - 0x80) < 0x360 ∨
      0x380 ≤ (byte.toNat - 0xE0) * 64 + (second - 0x80)) :
    ∃ p, begin? position byte = some p ∧ p.missing = 2 ∧ p.value = byte.toNat - 0xE0 ∧
      p.low ≤ second ∧ second ≤ p.high := by
  simp only [begin?]
  rw [if_neg (by omega)]
  by_cases hfirst : byte.toNat = 0xE0
  · rw [if_pos hfirst]
    refine ⟨_, rfl, rfl, ?_, ?_, ?_⟩ <;> dsimp only <;> omega
  rw [if_neg hfirst]
  by_cases hgap : byte.toNat = 0xED
  · rw [if_pos hgap]
    refine ⟨_, rfl, rfl, ?_, ?_, ?_⟩ <;> dsimp only <;> omega
  · rw [if_neg hgap, if_pos (by omega)]
    exact ⟨_, rfl, rfl, rfl, hsecond⟩

/-- A byte from F0 to F4 announces three more, and takes every second one that makes
neither an overlong form nor a number past the last code point. -/
theorem begin?_four (position : Nat) (byte : UInt8) (second : Nat)
    (hlow : 0xF0 ≤ byte.toNat) (hhigh : byte.toNat ≤ 0xF4)
    (hsecond : 0x80 ≤ second ∧ second ≤ 0xBF)
    (hlong : 0x10 ≤ (byte.toNat - 0xF0) * 64 + (second - 0x80))
    (hlast : (byte.toNat - 0xF0) * 64 + (second - 0x80) < 0x110) :
    ∃ p, begin? position byte = some p ∧ p.missing = 3 ∧ p.value = byte.toNat - 0xF0 ∧
      p.low ≤ second ∧ second ≤ p.high := by
  simp only [begin?]
  rw [if_neg (by omega), if_neg (by omega), if_neg (by omega), if_neg (by omega)]
  by_cases hfirst : byte.toNat = 0xF0
  · rw [if_pos hfirst]
    refine ⟨_, rfl, rfl, ?_, ?_, ?_⟩ <;> dsimp only <;> omega
  rw [if_neg hfirst]
  by_cases hmiddle : 0xF1 ≤ byte.toNat ∧ byte.toNat ≤ 0xF3
  · rw [if_pos hmiddle]
    exact ⟨_, rfl, rfl, rfl, hsecond⟩
  · rw [if_neg hmiddle, if_pos (by omega)]
    refine ⟨_, rfl, rfl, ?_, ?_, ?_⟩ <;> dsimp only <;> omega

/-- A small number is that of its byte. -/
theorem toNat_byte {n : Nat} (h : n < 256) : (UInt8.ofNat n).toNat = n :=
  UInt8.toNat_ofNat_of_lt h

variable {v : Nat}

/-- Two bytes are decoded to the number that they carry. -/
theorem decodeFrom_two (position : Nat) (hlow : 0x7f < v) (hhigh : v ≤ 0x7ff) (rest : Bytes) :
    ∃ next, decodeFrom position none
      ([UInt8.ofNat (v / 64 % 0x20 + 0xc0), UInt8.ofNat (v % 0x40 + 0x80)] ++ rest) =
        prepend v (decodeFrom next none rest) := by
  have hfirst : (UInt8.ofNat (v / 64 % 0x20 + 0xc0)).toNat = v / 64 % 0x20 + 0xc0 :=
    toNat_byte (by omega)
  have hlast : (UInt8.ofNat (v % 0x40 + 0x80)).toNat = v % 0x40 + 0x80 := toNat_byte (by omega)
  have hsum : ((UInt8.ofNat (v / 64 % 0x20 + 0xc0)).toNat - 0xC0) * 64 +
      ((UInt8.ofNat (v % 0x40 + 0x80)).toNat - 0x80) = v := by omega
  refine ⟨position + 1 + 1, ?_⟩
  rw [List.cons_append, decodeFrom_first (by omega) (begin?_two (by omega) (by omega)),
    List.singleton_append, decodeFrom_last (by dsimp only; omega) (by dsimp only; omega) rfl, hsum]

/-- Three bytes are decoded to the number that they carry, unless it is that of a surrogate. -/
theorem decodeFrom_three (position : Nat) (hlow : 0x7ff < v) (hhigh : v ≤ 0xffff)
    (hscalar : v < 0xD800 ∨ 0xDFFF < v) (rest : Bytes) :
    ∃ next, decodeFrom position none
      ([UInt8.ofNat (v / 4096 % 0x10 + 0xe0), UInt8.ofNat (v / 64 % 0x40 + 0x80),
        UInt8.ofNat (v % 0x40 + 0x80)] ++ rest) = prepend v (decodeFrom next none rest) := by
  have hfirst : (UInt8.ofNat (v / 4096 % 0x10 + 0xe0)).toNat = v / 4096 % 0x10 + 0xe0 :=
    toNat_byte (by omega)
  have hsecond : (UInt8.ofNat (v / 64 % 0x40 + 0x80)).toNat = v / 64 % 0x40 + 0x80 :=
    toNat_byte (by omega)
  have hlast : (UInt8.ofNat (v % 0x40 + 0x80)).toNat = v % 0x40 + 0x80 := toNat_byte (by omega)
  obtain ⟨p, hbegin, hmissing, hvalue, hpartLow, hpartHigh⟩ :=
    begin?_three position (UInt8.ofNat (v / 4096 % 0x10 + 0xe0)) (v / 64 % 0x40 + 0x80)
      (by omega) (by omega) (by omega) (by omega) (by omega)
  have hsum : (p.value * 64 + ((UInt8.ofNat (v / 64 % 0x40 + 0x80)).toNat - 0x80)) * 64 +
      ((UInt8.ofNat (v % 0x40 + 0x80)).toNat - 0x80) = v := by omega
  refine ⟨position + 1 + 1 + 1, ?_⟩
  rw [List.cons_append, decodeFrom_first (by omega) hbegin, List.cons_append,
    decodeFrom_more (by omega) (by omega) (by omega), List.singleton_append,
    decodeFrom_last (by dsimp only; omega) (by dsimp only; omega) (by dsimp only; omega), hsum]

/-- Four bytes are decoded to the number that they carry, up to the last code point. -/
theorem decodeFrom_four (position : Nat) (hlow : 0xffff < v) (hhigh : v < 0x110000)
    (rest : Bytes) :
    ∃ next, decodeFrom position none
      ([UInt8.ofNat (v / 262144 % 0x08 + 0xf0), UInt8.ofNat (v / 4096 % 0x40 + 0x80),
        UInt8.ofNat (v / 64 % 0x40 + 0x80), UInt8.ofNat (v % 0x40 + 0x80)] ++ rest) =
          prepend v (decodeFrom next none rest) := by
  have hfirst : (UInt8.ofNat (v / 262144 % 0x08 + 0xf0)).toNat = v / 262144 % 0x08 + 0xf0 :=
    toNat_byte (by omega)
  have hsecond : (UInt8.ofNat (v / 4096 % 0x40 + 0x80)).toNat = v / 4096 % 0x40 + 0x80 :=
    toNat_byte (by omega)
  have hthird : (UInt8.ofNat (v / 64 % 0x40 + 0x80)).toNat = v / 64 % 0x40 + 0x80 :=
    toNat_byte (by omega)
  have hlast : (UInt8.ofNat (v % 0x40 + 0x80)).toNat = v % 0x40 + 0x80 := toNat_byte (by omega)
  obtain ⟨p, hbegin, hmissing, hvalue, hpartLow, hpartHigh⟩ :=
    begin?_four position (UInt8.ofNat (v / 262144 % 0x08 + 0xf0)) (v / 4096 % 0x40 + 0x80)
      (by omega) (by omega) (by omega) (by omega) (by omega)
  have hsum : ((p.value * 64 + ((UInt8.ofNat (v / 4096 % 0x40 + 0x80)).toNat - 0x80)) * 64 +
      ((UInt8.ofNat (v / 64 % 0x40 + 0x80)).toNat - 0x80)) * 64 +
      ((UInt8.ofNat (v % 0x40 + 0x80)).toNat - 0x80) = v := by omega
  refine ⟨position + 1 + 1 + 1 + 1, ?_⟩
  rw [List.cons_append, decodeFrom_first (by omega) hbegin, List.cons_append,
    decodeFrom_more (by omega) (by omega) (by omega), List.cons_append,
    decodeFrom_more (by dsimp only; omega) (by dsimp only; omega) (by dsimp only; omega),
    List.singleton_append,
    decodeFrom_last (by dsimp only; omega) (by dsimp only; omega) (by dsimp only; omega), hsum]

/-- The bytes of a code point are decoded to its number. -/
theorem decodeFrom_bytesOf (position : Nat) (c : Char) (rest : Bytes) :
    ∃ next, decodeFrom position none (bytesOf (.scalar c) ++ rest) =
      prepend c.toNat (decodeFrom next none rest) := by
  have hvalid : c.toNat < 0xD800 ∨ 0xDFFF < c.toNat ∧ c.toNat < 0x110000 := c.valid
  have hvalue : c.val.toNat = c.toNat := rfl
  rw [bytesOf, String.utf8EncodeChar, hvalue]
  generalize c.toNat = v at hvalid ⊢
  by_cases hone : v ≤ 0x7f
  · rw [if_pos hone]
    have hv : (UInt8.ofNat v).toNat = v := toNat_byte (by omega)
    refine ⟨position + 1, ?_⟩
    rw [List.singleton_append, decodeFrom, if_pos (by omega), hv]
  rw [if_neg hone]
  by_cases htwo : v ≤ 0x7ff
  · rw [if_pos htwo]
    exact decodeFrom_two position (by omega) htwo rest
  rw [if_neg htwo]
  by_cases hthree : v ≤ 0xffff
  · rw [if_pos hthree]
    exact decodeFrom_three position (by omega) hthree (by omega) rest
  · rw [if_neg hthree]
    exact decodeFrom_four position (by omega) (by omega) rest

/-- The bytes of a text without surrogates are decoded to the text, wherever they stand. -/
theorem decodeFrom_flatMap_bytesOf {t : Text} (h : t.IsUnicode) (position : Nat) :
    decodeFrom position none (t.flatMap bytesOf) = .ok t := by
  induction t generalizing position with
  | nil => rfl
  | cons c t ih =>
    have hc := h c (List.mem_cons_self ..)
    cases c with
    | surrogate k => cases hc
    | scalar c =>
      obtain ⟨next, hnext⟩ := decodeFrom_bytesOf position c (t.flatMap bytesOf)
      have hvalue : c.toNat = (CodePoint.scalar c).value := rfl
      have hrest := ih (fun d hd => h d (List.mem_cons_of_mem _ hd)) next
      rw [List.flatMap_cons, hnext, hrest, prepend, hvalue, CodePoint.ofValue_value]

/-- The bytes of a text without surrogates are decoded to the text. -/
theorem decode_flatMap_bytesOf {t : Text} (h : t.IsUnicode) :
    decode (t.flatMap bytesOf) = .ok t := decodeFrom_flatMap_bytesOf h 0

/-- The first byte of a code point is none that could go on with another one. -/
theorem exists_first_of_bytesOf (c : Char) : ∃ byte rest, bytesOf (.scalar c) = byte :: rest ∧
    (byte.toNat < 0x80 ∨ 0xC0 ≤ byte.toNat) := by
  have hvalid : c.toNat < 0xD800 ∨ 0xDFFF < c.toNat ∧ c.toNat < 0x110000 := c.valid
  have hvalue : c.val.toNat = c.toNat := rfl
  rw [bytesOf, String.utf8EncodeChar, hvalue]
  generalize c.toNat = v at hvalid ⊢
  split
  · exact ⟨_, _, rfl, Or.inl (by rw [toNat_byte (by omega)]; omega)⟩
  · split
    · exact ⟨_, _, rfl, Or.inr (by rw [toNat_byte (by omega)]; omega)⟩
    · split
      · exact ⟨_, _, rfl, Or.inr (by rw [toNat_byte (by omega)]; omega)⟩
      · exact ⟨_, _, rfl, Or.inr (by rw [toNat_byte (by omega)]; omega)⟩

end CommandDocs.Utf8
