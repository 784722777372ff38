import CommandDocs.Proofs.Json.Parts
import CommandDocs.Proofs.Json.Strings
import CommandDocs.Proofs.Text.Numeral
import CommandDocs.Text.Lines
import Mathlib.Data.List.Basic

/-!
# What a written value is made of

Apart from the texts of a value and from the blanks of the layout, what is written is
plain ASCII. A condition on code points that allows these therefore holds of the whole
written form exactly when it holds of the escaped texts.
-/

namespace CommandDocs

/-- ASCII that can be seen, and nothing else. -/
def Text.IsPlain (t : Text) : Prop := ∀ c ∈ t, 0x20 < c.value ∧ c.value < 0x7F

instance (t : Text) : Decidable t.IsPlain :=
  inferInstanceAs (Decidable (∀ c ∈ t, 0x20 < c.value ∧ c.value < 0x7F))

namespace Text

/-- Plain texts one behind the other are plain. -/
theorem IsPlain.append {s t : Text} (hs : s.IsPlain) (ht : t.IsPlain) : (s ++ t).IsPlain :=
  List.forall_mem_append.mpr ⟨hs, ht⟩

/-- Digits are plain. -/
theorem IsNumeral.isPlain {t : Text} (h : t.IsNumeral) : t.IsPlain := by
  intro c hc
  have hdigit := h c hc
  cases c with
  | scalar c =>
    have hbounds : 48 ≤ c.toNat ∧ c.toNat ≤ 57 := Char.isDigit_iff_toNat.mp hdigit
    rw [CodePoint.value]
    omega
  | surrogate k => cases hdigit

/-- Some of the digits of a numeral are digits. -/
theorem IsNumeral.of_subset {s t : Text} (ht : t.IsNumeral) (h : s ⊆ t) : s.IsNumeral :=
  fun c hc => ht c (h hc)

/-- The numeral of an integer is plain. -/
theorem isPlain_ofInt (n : Int) : (ofInt n).IsPlain := by
  rw [ofInt]
  split
  · exact IsPlain.append (s := [.scalar '-']) (by decide) (isNumeral_ofNat _).isPlain
  · exact (isNumeral_ofNat _).isPlain

end Text

namespace NumberNotation

open Text

/-- A decimal that is laid out is plain. -/
theorem isPlain_layout (f : NumberNotation) (d : Decimal) : (f.layout d).IsPlain := by
  have hdigits := isNumeral_ofNat d.digits
  have hzeros : ∀ n, IsPlain (List.replicate n (.scalar '0')) :=
    fun n => (isNumeral_zeros n).isPlain
  have htake : ∀ n, IsPlain ((ofNat d.digits).take n) := fun n =>
    (hdigits.of_subset (List.take_subset _ _)).isPlain
  have hdrop : ∀ n, IsPlain ((ofNat d.digits).drop n) := fun n =>
    (hdigits.of_subset (List.drop_subset _ _)).isPlain
  have hpoint : (("." : Text)).IsPlain := by decide
  simp only [layout]
  split
  · split
    · exact (hdigits.isPlain.append (hzeros _)).append (by decide)
    · split
      · exact ((htake _).append hpoint).append (hdrop _)
      · exact (IsPlain.append (by decide) (hzeros _)).append hdigits.isPlain
  · refine ((((htake 1).append ?_).append (by decide)).append ?_).append
      (isNumeral_ofNatPadded _ _).isPlain
    · split
      · exact fun c hc => nomatch hc
      · exact hpoint.append (hdrop 1)
    · split <;> decide

/-- A number is written in plain characters, if the words of the notation are plain. -/
theorem isPlain_write {f : NumberNotation} (hnan : f.nan.IsPlain) (hinfinity : f.infinity.IsPlain)
    (x : Binary64) : (f.write x).IsPlain := by
  cases x with
  | nan => exact hnan
  | infinite negative =>
    cases negative with
    | true => exact IsPlain.append (by decide) hinfinity
    | false => exact hinfinity
  | finite negative m e h =>
    have hmagnitude : (if m = 0 then ("0.0" : Text) else
        f.layout (Decimal.shortest m e)).IsPlain := by
      split
      · decide
      · exact isPlain_layout f _
    cases negative with
    | true => exact IsPlain.append (by decide) hmagnitude
    | false => exact hmagnitude

end NumberNotation

namespace Json

/-- A condition holds of the escaped texts of a value itself. -/
def TextsSatisfy (P : CodePoint → Prop) : Json → Prop
  | .text t => Text.Satisfies P (t.flatMap escape)
  | .object members => ∀ member ∈ members, Text.Satisfies P (member.1.flatMap escape)
  | _ => True

/-- The condition allows all that is plain, and the blanks of the layout. -/
structure Layout.Allows (layout : Layout) (P : CodePoint → Prop) : Prop where
  /-- Plain characters are allowed. -/
  plain : ∀ c : CodePoint, 0x20 ≤ c.value → c.value < 0x7F → P c
  /-- What stands before an item is allowed. -/
  gap : ∀ depth, (layout.gap depth).Satisfies P
  /-- What stands behind a colon is allowed. -/
  behindColon : layout.behindColon.Satisfies P

variable {P : CodePoint → Prop} {layout : Layout} {d : Nat}

/-- A plain text is allowed. -/
theorem Layout.Allows.of_isPlain (h : layout.Allows P) {t : Text} (ht : t.IsPlain) :
    t.Satisfies P := fun c hc => h.plain c (Nat.le_of_lt (ht c hc).1) (ht c hc).2

/-- A string is made of its quotes and its escaped text. -/
theorem satisfies_writeText (h : layout.Allows P) {t : Text} :
    (writeText t).Satisfies P ↔ Text.Satisfies P (t.flatMap escape) := by
  have hquote : Text.Satisfies P [.scalar '\x22'] := h.of_isPlain (by decide)
  rw [writeText, List.cons_append, ← List.singleton_append]
  simp only [Text.satisfies_append, hquote, true_and, and_true]

/-- Items behind the first one are made of commas, blanks and items. -/
theorem satisfies_writeItemsAt (h : layout.Allows P) (items : List Json) :
    (writeItemsAt layout d items).Satisfies P ↔
      ∀ item ∈ items, (writeAt layout d item).Satisfies P := by
  have hcomma : Text.Satisfies P ("," : Text) := h.of_isPlain (by decide)
  induction items with
  | nil => simp [writeItemsAt, Text.Satisfies]
  | cons item items ih =>
    simp only [writeItemsAt, Text.satisfies_append, ih, List.forall_mem_cons, hcomma, h.gap d,
      true_and]

/-- Members behind the first one are made of commas, blanks, names, colons and values. -/
theorem satisfies_writeMembersAt (h : layout.Allows P) (members : List (Text × Json)) :
    (writeMembersAt layout d members).Satisfies P ↔
      ∀ member ∈ members, Text.Satisfies P (member.1.flatMap escape) ∧
        (writeAt layout d member.2).Satisfies P := by
  have hcomma : Text.Satisfies P ("," : Text) := h.of_isPlain (by decide)
  have hcolon : Text.Satisfies P (":" : Text) := h.of_isPlain (by decide)
  induction members with
  | nil => simp [writeMembersAt, Text.Satisfies]
  | cons member members ih =>
    simp only [writeMembersAt, Text.satisfies_append, satisfies_writeText h, ih,
      List.forall_mem_cons, hcomma, hcolon, h.gap d, h.behindColon, true_and, and_true]

/-- A written value satisfies a condition that allows what is plain exactly when all of its
escaped texts satisfy it. -/
theorem satisfies_writeAt (h : layout.Allows P) (value : Json) :
    (writeAt layout d value).Satisfies P ↔ value.Everywhere (TextsSatisfy P) := by
  induction value using induction generalizing d with
  | atom value hatom =>
    have hword : TextsSatisfy P value → (writeAt layout d value).IsPlain →
        ((writeAt layout d value).Satisfies P ↔ value.Everywhere (TextsSatisfy P)) :=
      fun hvalue ht => iff_of_true (h.of_isPlain ht) (everywhere_of_isAtom hatom hvalue)
    cases value with
    | null =>
      have hnull : Text.IsPlain ("null" : Text) := by decide
      exact hword trivial hnull
    | bool b =>
      cases b with
      | true =>
        have htrue : Text.IsPlain ("true" : Text) := by decide
        exact hword trivial htrue
      | false =>
        have hfalse : Text.IsPlain ("false" : Text) := by decide
        exact hword trivial hfalse
    | int n => exact hword trivial (Text.isPlain_ofInt n)
    | float x => exact hword trivial (NumberNotation.isPlain_write (by decide) (by decide) x)
    | text t =>
      rw [writeAt, satisfies_writeText h]
      exact ⟨fun ht => everywhere_of_isAtom hatom ht, fun ht => ht.self⟩
    | array items => exact hatom.elim
    | object members => exact hatom.elim
  | array items ih =>
    have hopen : Text.Satisfies P ("[" : Text) := h.of_isPlain (by decide)
    have hclose : Text.Satisfies P ("]" : Text) := h.of_isPlain (by decide)
    rw [everywhere_array]
    cases items with
    | nil =>
      have hempty : Text.Satisfies P ("[]" : Text) := h.of_isPlain (by decide)
      exact iff_of_true hempty ⟨trivial, by simp⟩
    | cons item items =>
      have hitems : (∀ item ∈ items, (writeAt layout (d + 1) item).Satisfies P) ↔
          ∀ item ∈ items, item.Everywhere (TextsSatisfy P) :=
        forall₂_congr fun item hitem => ih item (List.mem_cons_of_mem _ hitem)
      simp only [writeAt, Text.satisfies_append, satisfies_writeItemsAt h, hopen, hclose, h.gap,
        ih item (List.mem_cons_self ..), hitems, List.forall_mem_cons, TextsSatisfy, true_and,
        and_true]
  | object members ih =>
    have hopen : Text.Satisfies P ("\x7b" : Text) := h.of_isPlain (by decide)
    have hclose : Text.Satisfies P ("\x7d" : Text) := h.of_isPlain (by decide)
    have hcolon : Text.Satisfies P (":" : Text) := h.of_isPlain (by decide)
    rw [everywhere_object]
    cases members with
    | nil =>
      have hempty : Text.Satisfies P ("\x7b\x7d" : Text) := h.of_isPlain (by decide)
      exact iff_of_true hempty ⟨by simp [TextsSatisfy], by simp⟩
    | cons member members =>
      have hvalues : (∀ member ∈ members, Text.Satisfies P (member.1.flatMap escape) ∧
            (writeAt layout (d + 1) member.2).Satisfies P) ↔
          ∀ member ∈ members, Text.Satisfies P (member.1.flatMap escape) ∧
            member.2.Everywhere (TextsSatisfy P) :=
        forall₂_congr fun member hmember =>
          and_congr_right fun _ => ih member (List.mem_cons_of_mem _ hmember)
      simp only [writeAt, Text.satisfies_append, satisfies_writeText h, satisfies_writeMembersAt h,
        hopen, hclose, hcolon, h.gap, h.behindColon, ih member (List.mem_cons_self ..), hvalues,
        List.forall_mem_cons, TextsSatisfy, true_and, and_true]
      rw [and_and_and_comm, forall₂_and]

/-- The digits that name a control character are plain. -/
theorem isPlain_ofNatHex : ∀ n < 0x20, (("\\u" : Text) ++ Text.ofNatHex 4 n).IsPlain := by
  decide

/-- A code point is escaped in plain characters, or stands for itself and is no control
character. -/
theorem escape_cases (c : CodePoint) :
    (c.value < 0x80 ∧ (escape c).IsPlain) ∨ (escape c = [c] ∧ 0x20 ≤ c.value) := by
  by_cases hshort : HasShortEscape c
  · left
    rcases hshort with rfl | rfl | rfl | rfl | rfl | rfl | rfl <;> decide
  rw [escape_of_not_hasShortEscape hshort]
  by_cases hcontrol : c.value < 0x20
  · rw [if_pos hcontrol]
    exact Or.inl ⟨by omega, isPlain_ofNatHex _ hcontrol⟩
  · rw [if_neg hcontrol]
    exact Or.inr ⟨rfl, Nat.not_lt.mp hcontrol⟩

/-- A code point with a small number is no surrogate. -/
theorem isSurrogate_of_value_lt {c : CodePoint} (h : c.value < 0x80) : c.isSurrogate = false := by
  cases c with
  | scalar c => rfl
  | surrogate k =>
    rw [CodePoint.value] at h
    omega

/-- Escaping neither adds nor removes surrogates. -/
theorem isUnicode_flatMap_escape {t : Text} :
    Text.Satisfies (fun c => c.isSurrogate = false) (t.flatMap escape) ↔ t.IsUnicode := by
  have hescape : ∀ c : CodePoint,
      (∀ e ∈ escape c, e.isSurrogate = false) ↔ c.isSurrogate = false := by
    intro c
    rcases escape_cases c with ⟨hsmall, hplain⟩ | ⟨hself, -⟩
    · refine iff_of_true (fun e he => isSurrogate_of_value_lt ?_) (isSurrogate_of_value_lt hsmall)
      have hbound := (hplain e he).2
      omega
    · rw [hself]
      simp
  induction t with
  | nil => simp [Text.Satisfies, Text.IsUnicode]
  | cons c t ih =>
    have hcons : Text.IsUnicode (c :: t) ↔ c.isSurrogate = false ∧ Text.IsUnicode t :=
      List.forall_mem_cons
    simp only [List.flatMap_cons, Text.satisfies_append, ih, hcons]
    exact and_congr_left fun _ => hescape c

/-- In escaped texts there is no carriage return. -/
theorem ne_return_of_mem_flatMap_escape (t : Text) :
    Text.Satisfies (· ≠ .scalar '\r') (t.flatMap escape) := by
  intro e he h
  subst h
  obtain ⟨c, -, hc⟩ := List.mem_flatMap.mp he
  rcases escape_cases c with ⟨-, hplain⟩ | ⟨hself, hbound⟩
  · have hlow := (hplain _ hc).1
    revert hlow
    decide
  · rw [hself, List.mem_singleton] at hc
    subst hc
    revert hbound
    decide

/-- The layout of files allows whatever allows plain characters and newlines. -/
theorem allows_indented (hplain : ∀ c : CodePoint, 0x20 ≤ c.value → c.value < 0x7F → P c)
    (hnewline : P (.scalar '\n')) : Layout.indented.Allows P := by
  have hspace : P (.scalar ' ') := hplain _ (by decide) (by decide)
  refine ⟨hplain, fun depth c hc => ?_, fun c hc => ?_⟩
  · rcases List.mem_cons.mp hc with rfl | hc
    · exact hnewline
    · rw [List.eq_of_mem_replicate hc]
      exact hspace
  · rw [List.mem_singleton.mp hc]
    exact hspace

/-- A value is written without surrogates exactly when its texts have none. -/
theorem isUnicode_write (value : Json) :
    (write Layout.indented value).IsUnicode ↔ value.Everywhere HasUnicode := by
  have hallows : Layout.indented.Allows (fun c => c.isSurrogate = false) :=
    allows_indented (fun c _ hc => isSurrogate_of_value_lt (by omega)) rfl
  have htexts : TextsSatisfy (fun c => c.isSurrogate = false) = HasUnicode := by
    funext value
    cases value with
    | text t => exact propext isUnicode_flatMap_escape
    | object members =>
      exact propext (forall₂_congr fun member _ => isUnicode_flatMap_escape)
    | _ => rfl
  rw [← htexts]
  exact satisfies_writeAt hallows value

/-- A written value has no carriage return. -/
theorem ne_return_of_mem_write (value : Json) :
    (write Layout.indented value).Satisfies (· ≠ .scalar '\r') := by
  have hallows : Layout.indented.Allows (· ≠ .scalar '\r') := by
    refine allows_indented ?_ (by decide)
    rintro c hlow - rfl
    revert hlow
    decide
  have htexts : ∀ part, TextsSatisfy (· ≠ .scalar '\r') part := by
    intro part
    cases part with
    | text t => exact ne_return_of_mem_flatMap_escape t
    | object members => exact fun member _ => ne_return_of_mem_flatMap_escape member.1
    | _ => trivial
  exact (satisfies_writeAt hallows value).mpr fun part _ => htexts part

end Json

/-- A text without carriage returns is not changed by the unification of line ends. -/
theorem Text.unifyNewlines_of_satisfies {t : Text} (h : t.Satisfies (· ≠ .scalar '\r')) :
    t.unifyNewlines = t := by
  induction t using unifyNewlines.induct with
  | case1 => rfl
  | case2 rest ih => exact absurd rfl (h _ (List.mem_cons_self ..))
  | case3 rest _ ih => exact absurd rfl (h _ (List.mem_cons_self ..))
  | case4 c rest hpair hsingle ih =>
    rw [unifyNewlines, ih fun d hd => h d (List.mem_cons_of_mem _ hd)]
    · exact hpair
    · exact hsingle

end CommandDocs
