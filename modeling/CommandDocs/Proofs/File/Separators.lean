import CommandDocs.File.Argument
import CommandDocs.Proofs.Text.Separation
import Mathlib.Data.List.DropRight

/-!
# Names between separators

An argument says names, with slashes and backslashes between them. A path reads from it these very
names, however long the runs of separators are, and begins at the root when the argument begins with
a separator. Names of a canonical argument are canonical.
-/

namespace CommandDocs

namespace Argument

variable {s t name : Text} {c x : CodePoint}

/-- The names that stand between the separators of a text. Empty names and single dots are none. -/
def names (t : Text) : List Text := (t.splitOnP isSeparator).filter (!Path.isVoid ·)

/-- Separators are slash and backslash. -/
theorem isSeparator_iff : isSeparator c = true ↔ c = .scalar '/' ∨ c = .scalar '\\' := by
  rw [isSeparator, Bool.or_eq_true, beq_iff_eq, beq_iff_eq]

/-- A letter is no separator. -/
theorem isSeparator_of_isLetter (h : c.isLetter = true) : isSeparator c = false := by
  cases hc : isSeparator c with
  | false => rfl
  | true => rcases isSeparator_iff.mp hc with rfl | rfl <;> cases h

/-- Separators part texts for normalization. -/
theorem isBarrier_of_isSeparator (h : isSeparator c = true) : c.IsBarrier := by
  refine CodePoint.isBarrier_of_mem ?_
  rcases isSeparator_iff.mp h with rfl | rfl <;> decide

/-- A text without separators says one name at most. -/
theorem names_of_unparted (h : ∀ c ∈ t, isSeparator c = false) :
    names t = [t].filter (!Path.isVoid ·) := by
  rw [names, List.splitOnP_eq_singleton h]

/-- A text without separators is the name it says. -/
theorem mem_names_of_unparted (h : ∀ c ∈ t, isSeparator c = false) :
    name ∈ names t ↔ name = t ∧ Path.isVoid name = false := by
  rw [names_of_unparted h, List.mem_filter, List.mem_singleton, Bool.not_eq_true']

/-- The names before a separator come before those behind it. -/
theorem names_append_separator (hx : isSeparator x = true) (s t : Text) :
    names (s ++ x :: t) = names s ++ names t := by
  rw [names, List.splitOnP_append_cons s t hx, List.filter_append, names, names]

/-- A separator at the beginning says no name. -/
theorem names_cons_separator (hx : isSeparator x = true) (t : Text) : names (x :: t) = names t :=
  names_append_separator hx [] t

/-- A text is taken apart at its separators from the front. -/
theorem separated_induction {motive : Text → Prop}
    (unparted : ∀ s : Text, (∀ c ∈ s, isSeparator c = false) → motive s)
    (parted : ∀ (s : Text) (x : CodePoint) (t : Text), (∀ c ∈ s, isSeparator c = false) →
      isSeparator x = true → motive t → motive (s ++ x :: t)) (t : Text) : motive t := by
  have hbehind : ∀ s : Text, (∀ c ∈ s, isSeparator c = false) → motive (s ++ t) := by
    induction t with
    | nil =>
      intro s hs
      rw [List.append_nil]
      exact unparted s hs
    | cons c rest ih =>
      intro s hs
      cases hc : isSeparator c with
      | true => exact parted s c rest hs hc (ih [] (List.forall_mem_nil _))
      | false =>
        have hlonger : ∀ d ∈ s ++ [c], isSeparator d = false := by
          rw [List.forall_mem_append, List.forall_mem_singleton]
          exact ⟨hs, hc⟩
        rw [List.append_cons]
        exact ih (s ++ [c]) hlonger
  exact hbehind [] (List.forall_mem_nil _)

/-- A name consists of characters of the text, none of which is a separator. It is neither empty nor
a single dot. -/
theorem of_mem_names (h : name ∈ names t) :
    Path.isVoid name = false ∧ ∀ c ∈ name, c ∈ t ∧ isSeparator c = false := by
  induction t using separated_induction with
  | unparted s hs =>
    obtain ⟨rfl, hvoid⟩ := (mem_names_of_unparted hs).mp h
    exact ⟨hvoid, fun c hc => ⟨hc, hs c hc⟩⟩
  | parted s x t hs hx ih =>
    rw [names_append_separator hx, List.mem_append, mem_names_of_unparted hs] at h
    rcases h with ⟨rfl, hvoid⟩ | hrest
    · exact ⟨hvoid, fun c hc => ⟨List.mem_append_left _ hc, hs c hc⟩⟩
    · obtain ⟨hvoid, hchars⟩ := ih hrest
      exact ⟨hvoid, fun c hc =>
        ⟨List.mem_append_right _ (List.mem_cons_of_mem x (hchars c hc).1), (hchars c hc).2⟩⟩

/-- The names of a canonical text are canonical. -/
theorem canonical_of_mem_names (ht : t.normalize = t) (h : name ∈ names t) :
    name.normalize = name := by
  induction t using separated_induction with
  | unparted s hs =>
    obtain ⟨rfl, -⟩ := (mem_names_of_unparted hs).mp h
    exact ht
  | parted s x t hs hx ih =>
    have hnot : x ∉ s := fun hmem => by
      rw [hs x hmem] at hx
      cases hx
    rw [Text.normalize_append_barrier_eq_self (isBarrier_of_isSeparator hx) hnot] at ht
    rw [names_append_separator hx, List.mem_append, mem_names_of_unparted hs] at h
    rcases h with ⟨rfl, -⟩ | hrest
    · exact ht.1
    · exact ih ht.2 hrest

/-! ### Reading a path -/

/-- The names between slashes, of which the empty ones and single dots are dropped. -/
def slashNames (t : Text) : List Text := (t.splitOn (.scalar '/')).filter (!Path.isVoid ·)

/-- Further separators at the beginning say no name. -/
theorem slashNames_dropWhile (t : Text) :
    slashNames ((unifySeparators t).dropWhile isSeparator) = slashNames (unifySeparators t) := by
  cases t with
  | nil => rfl
  | cons c rest =>
    rw [unifySeparators]
    split
    · have hslash : isSeparator (.scalar '/') = true := rfl
      rw [List.dropWhile_cons_of_pos hslash, List.dropWhile_idempotent, slashNames, slashNames,
        Text.splitOn, if_pos rfl]
      rfl
    · rename_i hc
      rw [List.dropWhile_cons_of_neg hc]

/-- Before a separator runs are replaced as they are behind it. -/
theorem unifySeparators_append (hs : ∀ c ∈ s, isSeparator c = false) (t : Text) :
    unifySeparators (s ++ t) = s ++ unifySeparators t := by
  induction s with
  | nil => rfl
  | cons c rest ih =>
    rw [List.forall_mem_cons] at hs
    rw [List.cons_append, unifySeparators, hs.1, ih hs.2]
    rfl

/-- Where runs of separators are one slash, the same names are said. -/
theorem slashNames_unifySeparators (t : Text) : slashNames (unifySeparators t) = names t := by
  induction t using separated_induction with
  | unparted s hs =>
    have hslash : CodePoint.scalar '/' ∉ s := fun hmem => by cases hs _ hmem
    have hsame := unifySeparators_append hs []
    rw [List.append_nil] at hsame
    have hsplit : Text.splitOn (.scalar '/') s = [s] :=
      Text.splitOn_eq_iff.mpr ⟨by simp, by simpa using hslash, by simp [Text.join]⟩
    rw [names_of_unparted hs, hsame, unifySeparators, List.append_nil, slashNames, hsplit]
  | parted s x t hs hx ih =>
    have hslash : CodePoint.scalar '/' ∉ s := fun hmem => by cases hs _ hmem
    rw [unifySeparators_append hs, unifySeparators, if_pos hx, slashNames,
      Text.splitOn_append_separator hslash, names_append_separator hx, names_of_unparted hs,
      ← ih, ← slashNames_dropWhile t, ← List.singleton_append, List.filter_append]
    rfl

/-- The path that a text reads as has the names of the text, and begins at the root when the text
begins with a separator. -/
theorem ofText_unifySeparators (t : Text) :
    Path.ofText (unifySeparators t) =
      ⟨if t.head?.any isSeparator then .slash else .relative, names t⟩ := by
  rw [← slashNames_unifySeparators, Path.ofText, Path.mk.injEq]
  refine ⟨?_, rfl⟩
  cases t with
  | nil => rfl
  | cons c rest =>
    rw [unifySeparators, List.head?_cons, Option.any_some]
    split
    · -- one slash, and no separator behind it
      have hbehind : ((unifySeparators rest).dropWhile isSeparator).takeWhile
          (· == CodePoint.scalar '/') = [] := by
        cases hdrop : (unifySeparators rest).dropWhile isSeparator with
        | nil => rfl
        | cons d more =>
          have hne : (unifySeparators rest).dropWhile isSeparator ≠ [] := by
            rw [hdrop]
            exact List.cons_ne_nil d more
          have hd := List.head_dropWhile_not isSeparator hne
          simp only [hdrop, List.head_cons] at hd
          have hslash : (d == CodePoint.scalar '/') = false := (Bool.or_eq_false_iff.mp hd).1
          rw [List.takeWhile_cons, hslash]
          rfl
      rw [PathRoot.ofText, List.takeWhile_cons, beq_self_eq_true, hbehind]
      rfl
    · rename_i hc
      have hslash : (c == CodePoint.scalar '/') = false :=
        (Bool.or_eq_false_iff.mp (Bool.not_eq_true _ ▸ hc)).1
      rw [PathRoot.ofText, List.takeWhile_cons, hslash]
      rfl

end Argument

end CommandDocs
