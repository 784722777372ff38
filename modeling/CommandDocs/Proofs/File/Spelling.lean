import CommandDocs.Proofs.File.Arguments

/-!
# Spellings of a path argument

Slashes and backslashes may be exchanged for one another and repeated: two arguments that become
the same when each run of separators is replaced by one slash name the same path, unless one of
them is refused for its spelling. The one with single slashes is refused only if all others are.
Separators at the end of an argument say nothing.
-/

namespace CommandDocs

/-! ### Texts that are not empty -/

/-- The decompositions of the table are not empty. -/
theorem CodePoint.isEmpty_of_mem_decompositions :
    CanonicalTable.decompositions.toList.all (fun entry => !entry.2.isEmpty) = true := by
  decide +kernel

/-- Something is left of every code point. -/
theorem CodePoint.decompose_ne_nil (c : CodePoint) : c.decompose ≠ [] := by
  rw [decompose]
  split
  · dsimp only
    split
    · exact List.cons_ne_nil _ _
    · exact List.cons_ne_nil _ _
  · split
    · exact List.cons_ne_nil _ _
    · rename_i entry hfind
      rw [← Array.find?_toList] at hfind
      have hentry := List.all_eq_true.mp isEmpty_of_mem_decompositions entry
        (List.mem_of_find?_eq_some hfind)
      rw [ne_eq, List.map_eq_nil_iff]
      intro hnone
      rw [hnone] at hentry
      cases hentry

/-- The starter is left, alone or in a composite. -/
theorem Text.composeBehind_ne_nil (starter : CodePoint) (held t : Text) :
    composeBehind starter held t ≠ [] := by
  induction t generalizing starter held with
  | nil => exact List.cons_ne_nil _ _
  | cons c rest ih =>
    rcases composeBehind_cases starter held c with ⟨composite, -, -, hstep⟩ | ⟨-, hstep⟩ |
      ⟨-, hstep⟩
    · rw [hstep]
      exact ih composite held
    · rw [hstep]
      exact List.cons_ne_nil _ _
    · rw [hstep]
      exact ih starter (c :: held)

/-- Normalization leaves nothing of the empty text only. -/
theorem Text.normalize_ne_nil {t : Text} (ht : t ≠ []) : t.normalize ≠ [] := by
  have hparts : orderMarks (t.flatMap CodePoint.decompose) ≠ [] := by
    intro hnone
    have hperm := orderMarks_perm (t.flatMap CodePoint.decompose)
    rw [hnone] at hperm
    obtain ⟨c, rest, rfl⟩ := List.exists_cons_of_ne_nil ht
    have hfirst := List.flatMap_eq_nil_iff.mp hperm.nil_eq.symm c List.mem_cons_self
    exact c.decompose_ne_nil hfirst
  rw [normalize]
  split
  · contradiction
  · exact composeBehind_ne_nil _ _ _

namespace Argument

variable {roots : ArgumentRoots} {option raw raw' s t rest : Text} {c : CodePoint} {p p' q : Path}

/-! ### One slash for each run of separators -/

/-- A text without separators has no runs to replace. -/
theorem unifySeparators_of_unparted (h : ∀ c ∈ t, isSeparator c = false) :
    unifySeparators t = t := by
  have hsame := unifySeparators_append h []
  rw [List.append_nil, unifySeparators, List.append_nil] at hsame
  exact hsame

/-- What is not a separator at the beginning stays there. -/
theorem unifySeparators_eq_cons (hc : isSeparator c = false) :
    unifySeparators t = c :: s ↔ ∃ rest, t = c :: rest ∧ unifySeparators rest = s := by
  constructor
  · intro h
    cases t with
    | nil => cases h
    | cons d rest =>
      rw [unifySeparators] at h
      split at h
      · rw [← (List.cons.inj h).1] at hc
        cases hc
      · obtain ⟨rfl, hrest⟩ := List.cons.inj h
        exact ⟨rest, rfl, hrest⟩
  · rintro ⟨rest, rfl, rfl⟩
    rw [unifySeparators, hc]
    rfl

/-- Separators that are dropped at the beginning may be replaced before. -/
theorem unifySeparators_dropWhile (t : Text) :
    unifySeparators (t.dropWhile isSeparator) = (unifySeparators t).dropWhile isSeparator := by
  induction t with
  | nil => rfl
  | cons c rest ih =>
    rw [unifySeparators]
    split
    · rename_i hc
      have hslash : isSeparator (.scalar '/') = true := rfl
      rw [List.dropWhile_cons_of_pos hc, List.dropWhile_cons_of_pos hslash, ih,
        List.dropWhile_idempotent]
    · rename_i hc
      rw [List.dropWhile_cons_of_neg hc, List.dropWhile_cons_of_neg hc, unifySeparators, if_neg hc]

/-- Single slashes are not replaced again. -/
theorem unifySeparators_unifySeparators (t : Text) :
    unifySeparators (unifySeparators t) = unifySeparators t := by
  induction t with
  | nil => rfl
  | cons c rest ih =>
    rw [unifySeparators]
    split
    · have hslash : isSeparator (.scalar '/') = true := rfl
      rw [unifySeparators, if_pos hslash, unifySeparators_dropWhile, ih, List.dropWhile_idempotent]
    · rename_i hc
      rw [unifySeparators, if_neg hc, ih]

/-- Nothing but slashes is new where runs are replaced. -/
theorem mem_unifySeparators (h : c ∈ unifySeparators t) : c = .scalar '/' ∨ c ∈ t := by
  induction t with
  | nil => cases h
  | cons d rest ih =>
    rw [unifySeparators] at h
    split at h
    · rcases List.mem_cons.mp h with hslash | hrest
      · exact Or.inl hslash
      · have hmem := (List.dropWhile_sublist isSeparator).subset hrest
        exact (ih hmem).imp_right (List.mem_cons_of_mem d)
    · rcases List.mem_cons.mp h with rfl | hrest
      · exact Or.inr List.mem_cons_self
      · exact (ih hrest).imp_right (List.mem_cons_of_mem d)

/-- A text without separators has none in its canonical form. -/
theorem unparted_normalize (h : ∀ c ∈ t, isSeparator c = false) :
    ∀ c ∈ t.normalize, isSeparator c = false := by
  intro c hc
  cases hx : isSeparator c with
  | false => rfl
  | true =>
    have hmem := Text.mem_of_mem_normalize (isBarrier_of_isSeparator hx) hc
    rw [h c hmem] at hx
    cases hx

/-- Separators at the beginning can be dropped before normalization. -/
theorem normalize_dropWhile (t : Text) :
    Text.normalize (t.dropWhile isSeparator) = t.normalize.dropWhile isSeparator := by
  have hnil : Text.normalize [] = [] := rfl
  induction t using separated_induction with
  | unparted s hs =>
    rw [List.dropWhile_eq_self_iff.mpr fun hlen => by simp [hs], eq_comm]
    exact List.dropWhile_eq_self_iff.mpr fun hlen => by simp [unparted_normalize hs]
  | parted s x t hs hx ih =>
    rw [Text.normalize_append_barrier (isBarrier_of_isSeparator hx)]
    by_cases hnone : s = []
    · rw [hnone, List.nil_append, hnil, List.nil_append, List.dropWhile_cons_of_pos hx,
        List.dropWhile_cons_of_pos hx, ih]
    · -- the text begins with something else, before normalization and behind it
      obtain ⟨c, rest, rfl⟩ := List.exists_cons_of_ne_nil hnone
      have hcanonical := unparted_normalize hs
      obtain ⟨d, more, hfirst⟩ := List.exists_cons_of_ne_nil (Text.normalize_ne_nil hnone)
      have hc : ¬isSeparator c = true := by simp [hs c List.mem_cons_self]
      have hd : ¬isSeparator d = true := by
        simp [hcanonical d (hfirst ▸ List.mem_cons_self)]
      rw [List.cons_append, List.dropWhile_cons_of_neg hc, ← List.cons_append,
        Text.normalize_append_barrier (isBarrier_of_isSeparator hx), hfirst, List.cons_append,
        List.dropWhile_cons_of_neg hd]

/-- Runs can be replaced before normalization or behind it. -/
theorem normalize_unifySeparators (t : Text) :
    (unifySeparators t).normalize = unifySeparators t.normalize := by
  induction t using separated_induction with
  | unparted s hs =>
    rw [unifySeparators_of_unparted hs, unifySeparators_of_unparted (unparted_normalize hs)]
  | parted s x t hs hx ih =>
    have hslash : (CodePoint.scalar '/').IsBarrier := isBarrier_of_isSeparator rfl
    rw [unifySeparators_append hs, unifySeparators, if_pos hx, Text.normalize_append_barrier hslash,
      Text.normalize_append_barrier (isBarrier_of_isSeparator hx),
      unifySeparators_append (unparted_normalize hs), unifySeparators, if_pos hx,
      normalize_dropWhile, ih]

/-! ### What an argument is read as -/

/-- An argument is accepted when none of the checks refuses it and it can be expanded. -/
theorem toPath_eq_ok : toPath roots option raw = .ok p ↔
    roots.program.isAbsolute = true ∧ CodePoint.scalar '\x00' ∉ raw.normalize ∧
      isHalfQualified raw.normalize = false ∧
      ∃ q, expand roots raw.normalize = some q ∧ (roots.base.join q).resolve = p := by
  rw [toPath]
  split
  · rename_i hprogram
    rw [Bool.not_eq_true'] at hprogram
    simp [hprogram]
  · rename_i hprogram
    rw [Bool.not_eq_true', Bool.not_eq_false] at hprogram
    split
    · rename_i hnul
      simp [List.contains_iff_mem.mp hnul]
    · rename_i hnul
      rw [List.contains_iff_mem] at hnul
      split
      · rename_i hhalf
        simp [hhalf]
      · rename_i hhalf
        rw [Bool.not_eq_true] at hhalf
        cases hexpand : expand roots raw.normalize with
        | none => simp
        | some q => simp [hprogram, hnul, hhalf]

/-- The names of an expanded text are those of the roots, or parts of the text. -/
theorem of_mem_expand (h : expand roots t = some q) {name : Text} (hname : name ∈ q.parts) :
    name ∈ roots.program.parts ++ roots.home.parts ∨ name ⊆ t := by
  have hwritten {s : Text} (hs : s ⊆ t) (hmem : name ∈ names s) : name ⊆ t :=
    fun c hc => hs ((of_mem_names hmem).2 c hc).1
  rw [expand] at h
  split at h
  · -- in the home directory
    rw [expandHome, ofText_unifySeparators] at h
    dsimp only at h
    split at h
    · rename_i first rest hnames
      split at h
      · cases h
        rcases List.mem_append.mp hname with hhome | hrest
        · exact Or.inl (List.mem_append_right _ hhome)
        · have hmem : name ∈ names t := by
            rw [hnames]
            exact List.mem_cons_of_mem _ hrest
          exact Or.inr (hwritten (List.Subset.refl t) hmem)
      · cases h
    · cases h
  split at h
  · -- in the directory of the program
    cases h
    rw [expandProgram, ofText_unifySeparators] at hname
    rcases List.mem_append.mp hname with hprogram | hrest
    · exact Or.inl (List.mem_append_left _ hprogram)
    · exact Or.inr (hwritten (List.drop_subset 1 t) hrest)
  · cases h
    rw [ofText_unifySeparators] at hname
    exact Or.inr (hwritten (List.Subset.refl t) hname)

/-- The names of a path are those of the roots, or names of the argument, in which U+0000 does not
stand. -/
theorem of_mem_toPath (h : toPath roots option raw = .ok p) {name : Text} (hname : name ∈ p.parts) :
    name ∈ roots.program.parts ++ roots.home.parts ++ roots.base.parts ∨
      CodePoint.scalar '\x00' ∉ name := by
  obtain ⟨-, hnul, -, q, hexpand, rfl⟩ := toPath_eq_ok.mp h
  have hq : name ∈ roots.base.parts ∨ name ∈ q.parts := by
    rcases of_mem_climb hname with hroot | hjoin
    · cases hroot
    · rw [Path.join] at hjoin
      split at hjoin
      · exact Or.inr hjoin
      · exact List.mem_append.mp hjoin
  rcases hq with hbase | hq
  · exact Or.inl (List.mem_append_right _ hbase)
  rcases of_mem_expand hexpand hq with hroot | hwritten
  · exact Or.inl (List.mem_append_left _ hroot)
  · exact Or.inr fun hc => hnul (hwritten hc)

/-- A text begins with a character that is no separator when it does so with single slashes. -/
theorem startsWith_unifySeparators (hc : isSeparator c = false) :
    Text.startsWith (unifySeparators t) [c] = Text.startsWith t [c] := by
  rw [Bool.eq_iff_iff, startsWith_singleton, startsWith_singleton]
  cases t with
  | nil => rfl
  | cons d rest =>
    rw [unifySeparators]
    split
    · rename_i hd
      refine iff_of_false (fun h => ?_) (fun h => ?_)
      · rw [← Option.some.inj h] at hc
        cases hc
      · rw [← Option.some.inj h, hd] at hc
        cases hc
    · rfl

/-- With single slashes a text is expanded to the same path, in each of the three ways. -/
theorem expand_unifySeparators (roots : ArgumentRoots) (t : Text) :
    expand roots (unifySeparators t) = expand roots t := by
  have htilde : ("~" : Text) = [.scalar '~'] := rfl
  have hat : ("@" : Text) = [.scalar '@'] := rfl
  have hnotilde : isSeparator (.scalar '~') = false := rfl
  have hnoat : isSeparator (.scalar '@') = false := rfl
  rw [expand, expand, htilde, hat, startsWith_unifySeparators hnotilde,
    startsWith_unifySeparators hnoat, expandHome, expandHome, unifySeparators_unifySeparators]
  split
  · rfl
  · split
    · rename_i h
      rw [startsWith_singleton] at h
      cases t with
      | nil => cases h
      | cons d rest =>
        obtain rfl := Option.some.inj h
        rw [(unifySeparators_eq_cons hnoat).mpr ⟨rest, rfl, rfl⟩, List.drop_one, List.drop_one,
          List.tail_cons, List.tail_cons, expandProgram, expandProgram,
          unifySeparators_unifySeparators]
    · rfl

/-- With single slashes no text is half qualified that was not before. -/
theorem isHalfQualified_of_unifySeparators (h : isHalfQualified (unifySeparators t) = true) :
    isHalfQualified t = true := by
  rcases isHalfQualified_eq_true.mp h with ⟨rest, hrest, -⟩ |
    ⟨letter, next, rest, hrest, hletter, hnext⟩
  · -- a backslash at the beginning was replaced
    cases t with
    | nil => cases hrest
    | cons d more =>
      rw [unifySeparators] at hrest
      split at hrest
      · cases hrest
      · rename_i hd
        obtain ⟨rfl, -⟩ := List.cons.inj hrest
        exact absurd rfl hd
  · have hcolon : isSeparator (.scalar ':') = false := rfl
    have hdrive := isSeparator_of_isLetter hletter
    obtain ⟨behindLetter, rfl, hletterRest⟩ := (unifySeparators_eq_cons hdrive).mp hrest
    obtain ⟨behindColon, rfl, hcolonRest⟩ := (unifySeparators_eq_cons hcolon).mp hletterRest
    obtain ⟨others, rfl, -⟩ := (unifySeparators_eq_cons hnext).mp hcolonRest
    exact isHalfQualified_eq_true.mpr (Or.inr ⟨letter, next, others, rfl, hletter, hnext⟩)

/-- An argument that is accepted names its path also with single slashes. -/
theorem toPath_unifySeparators (h : toPath roots option raw = .ok p) :
    toPath roots option (unifySeparators raw) = .ok p := by
  obtain ⟨hprogram, hnul, hhalf, q, hexpand, hp⟩ := toPath_eq_ok.mp h
  rw [toPath_eq_ok, normalize_unifySeparators, expand_unifySeparators]
  refine ⟨hprogram, fun hmem => ?_, ?_, q, hexpand, hp⟩
  · rcases mem_unifySeparators hmem with hslash | hmem
    · cases hslash
    · exact hnul hmem
  · rw [← Bool.not_eq_true] at hhalf ⊢
    exact fun hunified => hhalf (isHalfQualified_of_unifySeparators hunified)

/-! ### Separators at the end -/

/-- Separators at the end say no name. -/
theorem names_append_separators (hs : ∀ c ∈ s, isSeparator c = true) (t : Text) :
    names (t ++ s) = names t := by
  have hnone : names s = [] := by
    induction s with
    | nil => rfl
    | cons c rest ih =>
      rw [List.forall_mem_cons] at hs
      rw [names_cons_separator hs.1, ih hs.2]
  cases s with
  | nil => rw [List.append_nil]
  | cons c rest =>
    rw [List.forall_mem_cons] at hs
    rw [names_cons_separator hs.1] at hnone
    rw [names_append_separator hs.1, hnone, List.append_nil]

/-- Separators at the end stay there under normalization. -/
theorem normalize_append_separators (hs : ∀ c ∈ s, isSeparator c = true) (t : Text) :
    Text.normalize (t ++ s) = t.normalize ++ s := by
  induction s generalizing t with
  | nil => rw [List.append_nil, List.append_nil]
  | cons c rest ih =>
    rw [List.forall_mem_cons] at hs
    have hnil : Text.normalize [] = [] := rfl
    have hrest := ih hs.2 []
    rw [List.nil_append, hnil, List.nil_append] at hrest
    rw [Text.normalize_append_barrier (isBarrier_of_isSeparator hs.1), hrest]

/-- What stands in front of separators at the end is a beginning of the whole. -/
theorem exists_of_append_separators (hs : ∀ c ∈ s, isSeparator c = true)
    (hc : isSeparator c = false) (h : t ++ s = c :: rest) :
    ∃ others, t = c :: others ∧ others ++ s = rest := by
  cases t with
  | nil =>
    rw [List.nil_append] at h
    rw [hs c (h ▸ List.mem_cons_self)] at hc
    cases hc
  | cons d others =>
    obtain ⟨rfl, hrest⟩ := List.cons.inj h
    exact ⟨others, rfl, hrest⟩

/-- Separators behind a text do not make it half qualified. -/
theorem isHalfQualified_of_append_separators (ht : t ≠ [])
    (hs : ∀ c ∈ s, isSeparator c = true) (h : isHalfQualified (t ++ s) = true) :
    isHalfQualified t = true := by
  rcases isHalfQualified_eq_true.mp h with ⟨rest, hrest, hsingle⟩ |
    ⟨letter, next, rest, hrest, hletter, hnext⟩
  · obtain ⟨c, others, rfl⟩ := List.exists_cons_of_ne_nil ht
    obtain ⟨rfl, hothers⟩ := List.cons.inj hrest
    refine isHalfQualified_eq_true.mpr (Or.inl ⟨others, rfl, fun hdouble => hsingle ?_⟩)
    rw [← hothers, List.append_eq, List.head?_append, hdouble]
    rfl
  · have hcolon : isSeparator (.scalar ':') = false := rfl
    have hdrive := isSeparator_of_isLetter hletter
    obtain ⟨behindLetter, rfl, hletterRest⟩ := exists_of_append_separators hs hdrive hrest
    obtain ⟨behindColon, rfl, hcolonRest⟩ := exists_of_append_separators hs hcolon hletterRest
    obtain ⟨others, rfl, -⟩ := exists_of_append_separators hs hnext hcolonRest
    exact isHalfQualified_eq_true.mpr (Or.inr ⟨letter, next, others, rfl, hletter, hnext⟩)

/-- Separators behind a text do not change what it is expanded to. -/
theorem expand_append_separators (ht : t ≠ []) (hs : ∀ c ∈ s, isSeparator c = true) :
    expand roots (t ++ s) = expand roots t := by
  obtain ⟨c, rest, rfl⟩ := List.exists_cons_of_ne_nil ht
  have hpath : Path.ofText (unifySeparators (c :: rest ++ s)) =
      Path.ofText (unifySeparators (c :: rest)) := by
    rw [ofText_unifySeparators, ofText_unifySeparators, names_append_separators hs]
    rfl
  have hbehind : expandProgram roots.program ((c :: rest ++ s).drop 1) =
      expandProgram roots.program ((c :: rest).drop 1) := by
    rw [expandProgram, expandProgram, ofText_unifySeparators, ofText_unifySeparators,
      List.cons_append, List.drop_one, List.drop_one, List.tail_cons, List.tail_cons,
      names_append_separators hs]
  have hhead (d : CodePoint) : Text.startsWith (c :: rest ++ s) [d] =
      Text.startsWith (c :: rest) [d] := by
    rw [Bool.eq_iff_iff, startsWith_singleton, startsWith_singleton]
    rfl
  have htilde : ("~" : Text) = [.scalar '~'] := rfl
  have hat : ("@" : Text) = [.scalar '@'] := rfl
  rw [expand, expand, expandHome, expandHome, htilde, hat, hhead, hhead, hpath, hbehind]

/-- An argument that is accepted names its path also with separators behind it. -/
theorem toPath_append_separators (hraw : raw ≠ []) (hs : ∀ c ∈ s, isSeparator c = true)
    (h : toPath roots option raw = .ok p) : toPath roots option (raw ++ s) = .ok p := by
  obtain ⟨hprogram, hnul, hhalf, q, hexpand, hp⟩ := toPath_eq_ok.mp h
  have hcanonical := Text.normalize_ne_nil hraw
  rw [toPath_eq_ok, normalize_append_separators hs, expand_append_separators hcanonical hs]
  refine ⟨hprogram, fun hmem => ?_, ?_, q, hexpand, hp⟩
  · rcases List.mem_append.mp hmem with hmem | hmem
    · exact hnul hmem
    · cases hs _ hmem
  · rw [← Bool.not_eq_true] at hhalf ⊢
    exact fun hlonger => hhalf (isHalfQualified_of_append_separators hcanonical hs hlonger)

/-- How separators are spelled does not matter. Two accepted arguments that become the same when
every run of slashes and backslashes is replaced by one slash name the same path, and the one that
they become is accepted for it as well. Any separators behind an accepted argument that is not
empty leave it accepted for the same path. -/
theorem toPath_of_spelling (roots : ArgumentRoots) (option raw : Text) (p : Path)
    (h : toPath roots option raw = .ok p) :
    (∀ raw' p', unifySeparators raw = unifySeparators raw' →
        toPath roots option raw' = .ok p' → p = p') ∧
      toPath roots option (unifySeparators raw) = .ok p ∧
      (raw ≠ [] → ∀ separators : Text, (∀ c ∈ separators, isSeparator c = true) →
        toPath roots option (raw ++ separators) = .ok p) := by
  refine ⟨fun raw' p' hsame h' => ?_, toPath_unifySeparators h,
    fun hraw separators hs => toPath_append_separators hraw hs h⟩
  have hunified := toPath_unifySeparators h
  have hunified' := toPath_unifySeparators h'
  rw [hsame, hunified'] at hunified
  exact (Except.ok.inj hunified).symm

/-- Two spellings of a file below the home directory name the same path, also with backslashes at
the end. -/
theorem toPath_of_spelling_sampleRoots :
    ∃ p, toPath sampleRoots "--docs" "~/a//..\\b" = .ok p ∧
      toPath sampleRoots "--docs" "~\\a/..//b" = .ok p ∧
      toPath sampleRoots "--docs" "~/a//..\\b\\\\" = .ok p := by
  have hread : ∃ p, toPath sampleRoots "--docs" "~/a//..\\b" = .ok p := by
    rw [toPath, Text.normalize_of_lt (by decide)]
    exact ⟨_, rfl⟩
  have hread' : ∃ p, toPath sampleRoots "--docs" "~\\a/..//b" = .ok p := by
    rw [toPath, Text.normalize_of_lt (by decide)]
    exact ⟨_, rfl⟩
  obtain ⟨p, hp⟩ := hread
  obtain ⟨p', hp'⟩ := hread'
  obtain ⟨hsame, -, hbehind⟩ := toPath_of_spelling sampleRoots "--docs" "~/a//..\\b" p hp
  have hspelling : unifySeparators "~/a//..\\b" = unifySeparators "~\\a/..//b" := by
    decide
  have hequal : p = p' := hsame "~\\a/..//b" p' hspelling hp'
  refine ⟨p, hp, hequal ▸ hp', ?_⟩
  exact hbehind (by decide) "\\\\" (by decide)

end Argument

end CommandDocs
