import CommandDocs.Proofs.Text.Utf8
import Mathlib.Tactic.SplitIfs

/-!
# Decoded texts

No bytes are decoded to a surrogate. The range of the second byte keeps out the numbers of
surrogates, and nothing behind it can lead back to them: after each byte the value so far
is one that no surrogate begins with.
-/

namespace CommandDocs

/-- A number outside the range of surrogates is that of a scalar value. -/
theorem CodePoint.isSurrogate_ofValue {n : Nat} (h : n < 0xD800 ∨ 0xE000 ≤ n) :
    (ofValue n).isSurrogate = false := by
  rw [ofValue, dif_neg (by omega)]
  rfl

namespace Utf8

variable {position : Nat} {p : Partial} {byte : UInt8} {bytes : Bytes} {t : Text}

/-- A begun code point that cannot become a surrogate, whatever bytes are taken. -/
structure Partial.IsScalar (p : Partial) : Prop where
  /-- The next byte is one that carries six bits. -/
  range : 0x80 ≤ p.low ∧ p.high ≤ 0xBF
  /-- The value is not the beginning of a surrogate, as far as the next byte can tell. -/
  value : p.missing = 1 ∧ (p.value < 0x360 ∨ 0x380 ≤ p.value) ∨
    p.missing = 2 ∧ (p.value = 0xD → p.high ≤ 0x9F) ∨
    p.missing = 3 ∧ (p.value = 0 → 0x90 ≤ p.low)

/-- No first byte begins a surrogate. -/
theorem isScalar_of_begin (h : begin? position byte = some p) : p.IsScalar := by
  simp only [begin?] at h
  constructor
  · split_ifs at h <;> cases h <;> dsimp only <;> omega
  · -- the first byte says how many follow, and the range of the second one keeps them scalar
    split_ifs at h <;> cases h <;> dsimp only <;> omega

/-- Nor does a further byte lead to one. -/
theorem Partial.IsScalar.more (h : p.IsScalar) (hlow : p.low ≤ byte.toNat)
    (hhigh : byte.toNat ≤ p.high) (hmissing : p.missing ≠ 1) :
    Partial.IsScalar { p with
      length := p.length + 1, missing := p.missing - 1, low := 0x80, high := 0xBF,
      value := p.value * 64 + (byte.toNat - 0x80) } := by
  obtain ⟨⟨hfirst, hlast⟩, hvalue⟩ := h
  refine ⟨⟨Nat.le_refl _, Nat.le_refl _⟩, ?_⟩
  rcases hvalue with ⟨hone, -⟩ | ⟨htwo, hvalue⟩ | ⟨hthree, hvalue⟩
  · exact absurd hone hmissing
  · exact Or.inl ⟨by dsimp only; omega, by dsimp only; omega⟩
  · exact Or.inr (Or.inl ⟨by dsimp only; omega, by dsimp only; omega⟩)

/-- The last byte completes a scalar value. -/
theorem Partial.IsScalar.last (h : p.IsScalar) (hlow : p.low ≤ byte.toNat)
    (hhigh : byte.toNat ≤ p.high) (hmissing : p.missing = 1) :
    (CodePoint.ofValue (p.value * 64 + (byte.toNat - 0x80))).isSurrogate = false := by
  obtain ⟨⟨hfirst, hlast⟩, hvalue⟩ := h
  rcases hvalue with ⟨-, hvalue⟩ | ⟨htwo, -⟩ | ⟨hthree, -⟩
  · exact CodePoint.isSurrogate_ofValue (by omega)
  · omega
  · omega

/-- A text with a code point in front of it was decoded behind that code point. -/
theorem prepend_eq_ok {n : Nat} {decoded : Except DecodeError Text} :
    prepend n decoded = .ok t ↔ ∃ rest, decoded = .ok rest ∧ t = CodePoint.ofValue n :: rest := by
  cases decoded with
  | error e => exact iff_of_false (fun h => nomatch h) (fun ⟨_, h, _⟩ => nomatch h)
  | ok rest =>
    constructor
    · intro h
      cases h
      exact ⟨rest, rfl, rfl⟩
    · intro h
      rcases h with ⟨_, ⟨⟩, rfl⟩
      rfl

/-- From a begun code point that is no surrogate a Unicode text is decoded. -/
theorem isUnicode_of_decodeFrom {begun : Option Partial} (hbegun : ∀ p ∈ begun, p.IsScalar)
    (h : decodeFrom position begun bytes = .ok t) : t.IsUnicode := by
  induction bytes generalizing position begun t with
  | nil =>
    cases begun with
    | none =>
      cases h
      exact Text.isUnicode_nil
    | some p => cases h
  | cons byte bytes ih =>
    cases begun with
    | none =>
      rw [decodeFrom] at h
      split at h
      · obtain ⟨rest, hrest, rfl⟩ := prepend_eq_ok.mp h
        exact List.forall_mem_cons.mpr
          ⟨CodePoint.isSurrogate_ofValue (by omega), ih (by simp) hrest⟩
      · split at h
        · cases h
        · rename_i p hbegin
          refine ih (fun p' hp' => ?_) h
          cases hp'
          exact isScalar_of_begin hbegin
    | some p =>
      have hscalar := hbegun p rfl
      rw [decodeFrom] at h
      split at h
      · rename_i hrange
        dsimp only at h
        split at h
        · rename_i hmissing
          obtain ⟨rest, hrest, rfl⟩ := prepend_eq_ok.mp h
          exact List.forall_mem_cons.mpr
            ⟨hscalar.last hrange.1 hrange.2 hmissing, ih (by simp) hrest⟩
        · rename_i hmissing
          refine ih (fun p' hp' => ?_) h
          cases hp'
          exact hscalar.more hrange.1 hrange.2 hmissing
      · cases h

/-- A text that was decoded is Unicode. -/
theorem isUnicode_of_decode (h : decode bytes = .ok t) : t.IsUnicode :=
  isUnicode_of_decodeFrom (by simp) h

/-! ### Bytes with a text behind them -/

/-- Bytes are decoded to some text. -/
def IsDecodable (bytes : Bytes) : Prop := ∃ t, decode bytes = .ok t

/-- A code point in front makes no difference to whether the rest is decoded. -/
theorem exists_prepend_eq_ok {n : Nat} {decoded : Except DecodeError Text} :
    (∃ t, prepend n decoded = .ok t) ↔ ∃ t, decoded = .ok t := by
  cases decoded with
  | error e => exact iff_of_false (fun ⟨_, h⟩ => nomatch h) (fun ⟨_, h⟩ => nomatch h)
  | ok t => exact iff_of_true ⟨_, rfl⟩ ⟨_, rfl⟩

/-- No code point goes on with the bytes of a text, so that a text behind the bytes makes no
difference to whether they are decoded. -/
theorem exists_decodeFrom_append {begun : Option Partial} (hbegun : ∀ p ∈ begun, p.IsScalar)
    {more : Text} (hmore : more.IsUnicode) :
    (∃ t, decodeFrom position begun (bytes ++ more.flatMap bytesOf) = .ok t) ↔
      ∃ t, decodeFrom position begun bytes = .ok t := by
  induction bytes generalizing position begun with
  | nil =>
    cases begun with
    | none => exact iff_of_true ⟨_, decodeFrom_flatMap_bytesOf hmore _⟩ ⟨_, rfl⟩
    | some p =>
      -- a code point that has begun is not completed in either case
      refine iff_of_false (fun ⟨t, h⟩ => ?_) (fun ⟨_, h⟩ => nomatch h)
      cases more with
      | nil => cases h
      | cons c more =>
        cases c with
        | surrogate k => cases hmore _ (List.mem_cons_self ..)
        | scalar c =>
          obtain ⟨byte, rest, hbytes, hfirst⟩ := exists_first_of_bytesOf c
          obtain ⟨hlow, hhigh⟩ := (hbegun p rfl).range
          rw [List.nil_append, List.flatMap_cons, hbytes, List.cons_append, decodeFrom,
            if_neg (by omega)] at h
          cases h
  | cons byte bytes ih =>
    cases begun with
    | none =>
      rw [List.cons_append, decodeFrom, decodeFrom]
      split
      · rw [exists_prepend_eq_ok, exists_prepend_eq_ok]
        exact ih (by simp)
      · split
        · rfl
        · rename_i p hbegin
          refine ih fun p' hp' => ?_
          cases hp'
          exact isScalar_of_begin hbegin
    | some p =>
      have hscalar := hbegun p rfl
      rw [List.cons_append, decodeFrom, decodeFrom]
      split
      · rename_i hrange
        dsimp only
        split
        · rw [exists_prepend_eq_ok, exists_prepend_eq_ok]
          exact ih (by simp)
        · rename_i hmissing
          refine ih fun p' hp' => ?_
          cases hp'
          exact hscalar.more hrange.1 hrange.2 hmissing
      · rfl

/-- Bytes that are decoded are decoded with a text behind them to both texts. -/
theorem decodeFrom_append {begun : Option Partial} {more : Text} (hmore : more.IsUnicode)
    (h : decodeFrom position begun bytes = .ok t) :
    decodeFrom position begun (bytes ++ more.flatMap bytesOf) = .ok (t ++ more) := by
  induction bytes generalizing position begun t with
  | nil =>
    cases begun with
    | none =>
      cases h
      exact decodeFrom_flatMap_bytesOf hmore _
    | some p => cases h
  | cons byte bytes ih =>
    cases begun with
    | none =>
      rw [List.cons_append, decodeFrom]
      rw [decodeFrom] at h
      split at h
      · rename_i hbyte
        obtain ⟨rest, hrest, rfl⟩ := prepend_eq_ok.mp h
        rw [if_pos hbyte, ih hrest]
        rfl
      · rename_i hbyte
        rw [if_neg hbyte]
        split at h
        · cases h
        · exact ih h
    | some p =>
      rw [List.cons_append, decodeFrom]
      rw [decodeFrom] at h
      split at h
      · rename_i hrange
        rw [if_pos hrange]
        dsimp only at h ⊢
        split at h
        · rename_i hmissing
          obtain ⟨rest, hrest, rfl⟩ := prepend_eq_ok.mp h
          rw [if_pos hmissing, ih hrest]
          rfl
        · rename_i hmissing
          rw [if_neg hmissing]
          exact ih h
      · cases h

/-- Bytes are decoded with a text behind them exactly when they are without it. -/
theorem isDecodable_append {more : Text} (hmore : more.IsUnicode) :
    IsDecodable (bytes ++ more.flatMap bytesOf) ↔ IsDecodable bytes :=
  exists_decodeFrom_append (by simp) hmore

end Utf8

end CommandDocs
