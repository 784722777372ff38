import CommandDocs.Proofs.File.Names
import CommandDocs.Proofs.File.Separators
import CommandDocs.Proofs.Text.Idempotence
import CommandDocs.Proofs.Text.Parts

/-!
# Paths that arguments name

The names that an argument says begin in the home directory, in the directory of the program, at the
root or in the base directory. However it is spelled, an argument that is not refused comes to one
absolute path without double dots, and the text of this path is an argument for the same path.
-/

namespace CommandDocs

namespace Argument

variable {roots : ArgumentRoots} {t rest name : Text} {c x : CodePoint} {parts : List Text}

/-! ### Arguments that are refused -/

/-- A canonical argument that names no path: it holds U+0000, begins with a single backslash, begins
with a letter, a colon and no separator behind it, or begins in the home directory of someone. -/
inductive IsRefused : Text → Prop
  /-- The character U+0000. -/
  | nul {t : Text} (h : CodePoint.scalar '\x00' ∈ t) : IsRefused t
  /-- A single backslash. -/
  | backslash {rest : Text} (h : rest.head? ≠ some (.scalar '\\')) :
    IsRefused (.scalar '\\' :: rest)
  /-- A drive without a separator behind its colon. -/
  | drive {letter next : CodePoint} {rest : Text} (hletter : letter.isLetter = true)
      (hnext : isSeparator next = false) : IsRefused (letter :: .scalar ':' :: next :: rest)
  /-- A tilde and a name. -/
  | someone {next : CodePoint} {rest : Text} (hnext : isSeparator next = false) :
    IsRefused (.scalar '~' :: next :: rest)

/-- A text begins with a character when this is its first one. -/
theorem startsWith_singleton : t.startsWith [c] = true ↔ t.head? = some c := by
  cases t with
  | nil => simp [Text.startsWith]
  | cons d rest =>
    simp only [Text.startsWith, List.isPrefixOf, Bool.and_true, beq_iff_eq, List.head?_cons,
      Option.some.injEq]
    exact eq_comm

/-- The two forms that depend on the system. -/
theorem isHalfQualified_eq_true : isHalfQualified t = true ↔
    (∃ rest, t = .scalar '\\' :: rest ∧ rest.head? ≠ some (.scalar '\\')) ∨
      ∃ letter next rest, t = letter :: .scalar ':' :: next :: rest ∧
        letter.isLetter = true ∧ isSeparator next = false := by
  have hsingle {rest : Text} : (!rest.startsWith "\\") = true ↔
      rest.head? ≠ some (.scalar '\\') := by
    have hmark : ("\\" : Text) = [.scalar '\\'] := rfl
    rw [Bool.not_eq_true', ← Bool.not_eq_true, hmark, startsWith_singleton]
  constructor
  · intro h
    unfold isHalfQualified at h
    split at h
    · rename_i rest
      exact Or.inl ⟨rest, rfl, hsingle.mp h⟩
    · rename_i letter next rest _
      rw [Bool.and_eq_true, Bool.not_eq_true'] at h
      exact Or.inr ⟨letter, next, rest, rfl, h⟩
    · cases h
  · intro h
    rcases h with ⟨rest, rfl, hrest⟩ | ⟨letter, next, rest, rfl, hletter, hnext⟩
    · exact hsingle.mpr hrest
    · unfold isHalfQualified
      split
      · rename_i heq
        obtain ⟨rfl, -⟩ := List.cons.inj heq
        exact absurd hletter (by decide)
      · rename_i heq
        cases heq
        rw [hletter, hnext]
        rfl
      · rename_i hother
        exact absurd rfl (hother letter next rest)

/-- A text that is refused, by the checks that find it out. -/
theorem isRefused_iff : IsRefused t ↔ CodePoint.scalar '\x00' ∈ t ∨ isHalfQualified t = true ∨
    ∃ next rest, t = .scalar '~' :: next :: rest ∧ isSeparator next = false := by
  rw [isHalfQualified_eq_true]
  constructor
  · intro h
    cases h with
    | nul h => exact Or.inl h
    | backslash h => exact Or.inr (Or.inl (Or.inl ⟨_, rfl, h⟩))
    | drive hletter hnext => exact Or.inr (Or.inl (Or.inr ⟨_, _, _, rfl, hletter, hnext⟩))
    | someone hnext => exact Or.inr (Or.inr ⟨_, _, rfl, hnext⟩)
  · intro h
    rcases h with h | (⟨rest, rfl, h⟩ | ⟨letter, next, rest, rfl, hletter, hnext⟩) |
      ⟨next, rest, rfl, hnext⟩
    · exact .nul h
    · exact .backslash h
    · exact .drive hletter hnext
    · exact .someone hnext

/-! ### Arguments that are accepted -/

/-- The names to which a canonical argument leads from the root, double dots included. -/
inductive Leads (roots : ArgumentRoots) : Text → List Text → Prop
  /-- A tilde by itself or before a separator stands for the home directory. -/
  | home {rest : Text} (h : ∀ c, rest.head? = some c → isSeparator c = true) :
    Leads roots (.scalar '~' :: rest) (roots.home.parts ++ names rest)
  /-- An at sign stands for the directory of the program. -/
  | program (rest : Text) : Leads roots (.scalar '@' :: rest) (roots.program.parts ++ names rest)
  /-- A separator stands for the root. -/
  | root {x : CodePoint} (hx : isSeparator x = true) (rest : Text) :
    Leads roots (x :: rest) (names rest)
  /-- Other texts begin in the base directory. -/
  | base {t : Text} (h : ∀ c, t.head? = some c →
      c ≠ .scalar '~' ∧ c ≠ .scalar '@' ∧ isSeparator c = false) :
    Leads roots t (roots.base.parts ++ names t)

/-- Characters before a name are part of it. -/
theorem exists_names_cons_cons (hc : isSeparator c = false) (hx : isSeparator x = false)
    (t : Text) : ∃ first others, names (c :: x :: t) = (c :: x :: first) :: others := by
  obtain ⟨first, others, hsplit⟩ := List.exists_cons_of_ne_nil (List.splitOnP_ne_nil isSeparator t)
  refine ⟨first, others.filter (!Path.isVoid ·), ?_⟩
  have hlong : (!Path.isVoid (c :: x :: first)) = true := by
    have hdot : ("." : Text) = [.scalar '.'] := rfl
    simp [Path.isVoid, hdot]
  rw [names, List.splitOnP_cons_eq_if_modifyHead, List.splitOnP_cons_eq_if_modifyHead, hsplit, hc,
    hx]
  exact List.filter_cons_of_pos hlong

/-- A tilde alone is a name. -/
theorem names_tilde : names [.scalar '~'] = [("~" : Text)] := names_of_unparted (by decide)

/-- A tilde before a separator comes before the names behind it. -/
theorem names_tilde_cons (h : ∀ c, rest.head? = some c → isSeparator c = true) :
    names (.scalar '~' :: rest) = ("~" : Text) :: names rest := by
  cases rest with
  | nil => exact names_tilde
  | cons c more =>
    have hc := h c rfl
    have hparted := names_append_separator hc [.scalar '~'] more
    rw [names_tilde] at hparted
    rw [names_cons_separator hc]
    exact hparted

/-- A tilde by itself or before a separator is expanded. -/
theorem expandHome_of_head (home : Path)
    (h : ∀ c, rest.head? = some c → isSeparator c = true) :
    expandHome home (.scalar '~' :: rest) =
      some { home with parts := home.parts ++ names rest } := by
  rw [expandHome, ofText_unifySeparators, names_tilde_cons h]
  rfl

/-- A tilde before a name is not expanded. -/
theorem expandHome_of_name (home : Path) (hc : isSeparator c = false) (rest : Text) :
    expandHome home (.scalar '~' :: c :: rest) = none := by
  have htilde : isSeparator (.scalar '~') = false := by decide
  obtain ⟨first, others, hnames⟩ := exists_names_cons_cons htilde hc rest
  rw [expandHome, ofText_unifySeparators, hnames]
  rfl

/-- No text leads somewhere in which a tilde stands before a name. -/
theorem Leads.not_someone (h : Leads roots t parts) {next : CodePoint}
    (ht : t = .scalar '~' :: next :: rest) : isSeparator next = true := by
  cases h with
  | home h =>
    cases ht
    exact h next rfl
  | program => cases ht
  | root hx =>
    cases ht
    cases hx
  | base h =>
    subst ht
    exact absurd rfl (h _ rfl).1

/-- Behind a separator a text leads to its own names. -/
theorem Leads.eq_names (h : Leads roots t parts) (ht : t = x :: rest)
    (hx : isSeparator x = true) : parts = names rest := by
  cases h with
  | home =>
    cases ht
    cases hx
  | program =>
    cases ht
    cases hx
  | root =>
    cases ht
    rfl
  | base h =>
    subst ht
    rw [(h x rfl).2.2] at hx
    cases hx

/-- An argument is expanded to a path that continues the base directory by the names it leads to,
unless a tilde stands before a name. -/
theorem expand_cases (hhome : roots.home.isAbsolute = true)
    (hprogram : roots.program.isAbsolute = true) (t : Text) :
    (expand roots t = none ∧ ∃ next rest, t = .scalar '~' :: next :: rest ∧
        isSeparator next = false) ∨
      ∃ parts p, Leads roots t parts ∧ expand roots t = some p ∧
        (roots.base.join p).parts = parts := by
  have hjoin {q : Path} (hq : q.isAbsolute = true) (parts : List Text) :
      (roots.base.join { q with parts := parts }).parts = parts := by
    have habsolute : Path.isAbsolute { q with parts := parts } = true := hq
    rw [Path.join, if_pos habsolute]
  cases t with
  | nil =>
    have h : Leads roots [] (roots.base.parts ++ names []) := .base fun c hc => by cases hc
    exact Or.inr ⟨_, _, h, rfl, rfl⟩
  | cons c rest =>
    have hhead {d : CodePoint} : Text.startsWith (c :: rest) [d] = true ↔ c = d := by
      rw [startsWith_singleton, List.head?_cons, Option.some.injEq]
    have htilde : ("~" : Text) = [.scalar '~'] := rfl
    have hat : ("@" : Text) = [.scalar '@'] := rfl
    rw [expand, htilde, hat]
    split
    · rename_i h
      obtain rfl := hhead.mp h
      by_cases hrest : ∀ c, rest.head? = some c → isSeparator c = true
      · exact Or.inr ⟨_, _, .home hrest, expandHome_of_head roots.home hrest, hjoin hhome _⟩
      · cases rest with
        | nil => exact absurd (fun c hc => by cases hc) hrest
        | cons next more =>
          have hnext : isSeparator next = false := by simpa using hrest
          exact Or.inl ⟨expandHome_of_name roots.home hnext more, next, more, rfl, hnext⟩
    · split
      · rename_i h
        obtain rfl := hhead.mp h
        have hdrop : expandProgram roots.program ((CodePoint.scalar '@' :: rest).drop 1) =
            { roots.program with parts := roots.program.parts ++ names rest } := by
          rw [expandProgram, ofText_unifySeparators, List.drop_one, List.tail_cons]
        rw [hdrop]
        exact Or.inr ⟨_, _, .program rest, rfl, hjoin hprogram _⟩
      · rename_i hnotilde hnoat
        rw [hhead] at hnotilde hnoat
        rw [ofText_unifySeparators]
        cases hc : isSeparator c with
        | true =>
          refine Or.inr ⟨_, _, .root hc rest, rfl, ?_⟩
          rw [List.head?_cons, Option.any_some, hc, names_cons_separator hc]
          rfl
        | false =>
          have h : Leads roots (c :: rest) (roots.base.parts ++ names (c :: rest)) :=
            .base fun d hd => by
              cases hd
              exact ⟨hnotilde, hnoat, hc⟩
          refine Or.inr ⟨_, _, h, rfl, ?_⟩
          rw [List.head?_cons, Option.any_some, hc]
          rfl

/-- An argument is refused, or else it comes to the place to which its names lead from the root. -/
theorem toPath_cases (hhome : roots.home.isAbsolute = true)
    (hprogram : roots.program.isAbsolute = true) (option raw : Text) :
    (IsRefused raw.normalize ∧ ∃ fault, toPath roots option raw = .error fault) ∨
      ¬IsRefused raw.normalize ∧ ∃ parts, Leads roots raw.normalize parts ∧
        toPath roots option raw = .ok ⟨.slash, Path.climb [] parts⟩ := by
  have habsolute : (!roots.program.isAbsolute) = false := by rw [hprogram, Bool.not_true]
  by_cases hnul : CodePoint.scalar '\x00' ∈ raw.normalize
  · refine Or.inl ⟨.nul hnul, .nul option, ?_⟩
    rw [toPath, habsolute, List.contains_iff_mem.mpr hnul]
    rfl
  have hcontains : raw.normalize.contains (CodePoint.scalar '\x00') = false := by simpa using hnul
  by_cases hhalf : isHalfQualified raw.normalize = true
  · refine Or.inl ⟨isRefused_iff.mpr (Or.inr (Or.inl hhalf)), .halfQualified option raw, ?_⟩
    rw [toPath, habsolute, hcontains, hhalf]
    rfl
  rcases expand_cases hhome hprogram raw.normalize with ⟨hexpand, hsomeone⟩ |
    ⟨parts, p, hleads, hexpand, rfl⟩
  · refine Or.inl ⟨isRefused_iff.mpr (Or.inr (Or.inr hsomeone)), .unknownHome option raw, ?_⟩
    rw [toPath, habsolute, hcontains, Bool.eq_false_iff.mpr hhalf, hexpand]
    rfl
  · refine Or.inr ⟨fun hrefused => ?_, _, hleads, ?_⟩
    · rcases isRefused_iff.mp hrefused with hnul' | hhalf' | ⟨next, rest, ht, hnext⟩
      · exact hnul hnul'
      · exact hhalf hhalf'
      · rw [hleads.not_someone ht] at hnext
        cases hnext
    · rw [toPath, habsolute, hcontains, Bool.eq_false_iff.mpr hhalf, hexpand]
      rfl

/-! ### Normal forms -/

/-- A name of a normal form: it leads somewhere below, holds no separator, and is canonical. No
file name holds U+0000. -/
structure IsPlain (name : Text) : Prop where
  /-- It is neither empty nor a single dot. -/
  void : Path.isVoid name = false
  /-- It is not that of the directory above. -/
  below : name ≠ Path.parentName
  /-- It holds neither slash nor backslash. -/
  unparted : ∀ c ∈ name, isSeparator c = false
  /-- It does not hold U+0000. -/
  nul : CodePoint.scalar '\x00' ∉ name
  /-- It is canonical. -/
  canonical : name.normalize = name

/-- The directories against which arguments are read are absolute paths in normal form. -/
structure AreNormal (roots : ArgumentRoots) : Prop where
  /-- The directory of the program is absolute. -/
  program : roots.program.isAbsolute = true
  /-- So is the home directory. -/
  home : roots.home.isAbsolute = true
  /-- So is the base directory. -/
  base : roots.base.isAbsolute = true
  /-- All their names are plain. -/
  names : ∀ name ∈ roots.program.parts ++ roots.home.parts ++ roots.base.parts, IsPlain name

/-- Names that are followed are names of the place or of the path, without double dots. -/
theorem of_mem_climb {place : List Text} (h : name ∈ Path.climb place parts) :
    name ∈ place ∨ name ∈ parts := by
  induction parts generalizing place with
  | nil => exact Or.inl h
  | cons part rest ih =>
    rw [Path.climb] at h
    split at h
    · rcases ih h with hplace | hrest
      · exact Or.inl (List.dropLast_subset place hplace)
      · exact Or.inr (List.mem_cons_of_mem part hrest)
    · rcases ih h with hplace | hrest
      · rcases List.mem_append.mp hplace with hplace | hlast
        · exact Or.inl hplace
        · rw [List.mem_singleton.mp hlast]
          exact Or.inr List.mem_cons_self
      · exact Or.inr (List.mem_cons_of_mem part hrest)

/-- The names of a canonical argument without U+0000 are plain, but for double dots. -/
theorem isPlain_of_mem_names (ht : t.normalize = t) (hnul : CodePoint.scalar '\x00' ∉ t)
    (hname : name ∈ names t) (hbelow : name ≠ Path.parentName) : IsPlain name where
  void := (of_mem_names hname).1
  below := hbelow
  unparted := fun c hc => ((of_mem_names hname).2 c hc).2
  nul := fun hmem => hnul ((of_mem_names hname).2 _ hmem).1
  canonical := canonical_of_mem_names ht hname

/-- What an argument leads to has plain names, but for double dots. -/
theorem Leads.isPlain (h : Leads roots t parts) (hroots : AreNormal roots)
    (ht : t.normalize = t) (hnul : CodePoint.scalar '\x00' ∉ t) (hname : name ∈ parts)
    (hbelow : name ≠ Path.parentName) : IsPlain name := by
  have hwritten (hmem : name ∈ names t) := isPlain_of_mem_names ht hnul hmem hbelow
  cases h with
  | home hrest =>
    rcases List.mem_append.mp hname with hhome | hrest'
    · exact hroots.names name (List.mem_append_left _ (List.mem_append_right _ hhome))
    · refine hwritten ?_
      rw [names_tilde_cons hrest]
      exact List.mem_cons_of_mem _ hrest'
  | program rest =>
    rcases List.mem_append.mp hname with hprogram | hrest
    · exact hroots.names name (List.mem_append_left _ (List.mem_append_left _ hprogram))
    · have hat : (CodePoint.scalar '@').IsBarrier := CodePoint.isBarrier_of_mem (by decide)
      have hcanonical :=
        ((Text.normalize_append_barrier_eq_self hat List.not_mem_nil).mp ht).2
      rw [List.mem_cons, not_or] at hnul
      exact isPlain_of_mem_names hcanonical hnul.2 hrest hbelow
  | root hx rest =>
    refine hwritten ?_
    rw [names_cons_separator hx]
    exact hname
  | base =>
    rcases List.mem_append.mp hname with hbase | ht
    · exact hroots.names name (List.mem_append_right _ hbase)
    · exact hwritten ht

/-! ### The text of a normal form -/

/-- Two names and more are joined by a slash behind the first one. -/
theorem join_slash_cons_cons (name second : Text) (others : List Text) :
    Text.join "/" (name :: second :: others) =
      name ++ .scalar '/' :: Text.join "/" (second :: others) :=
  Text.join_cons_cons (.scalar '/') name second others

/-- Plain names that are joined by slashes are said again. -/
theorem names_join (h : ∀ name ∈ parts, IsPlain name) : names (Text.join "/" parts) = parts := by
  have hone {name : Text} (hname : IsPlain name) : names name = [name] := by
    rw [names_of_unparted hname.unparted]
    exact List.filter_cons_of_pos (by rw [hname.void]; rfl)
  induction parts with
  | nil => rfl
  | cons name others ih =>
    rw [List.forall_mem_cons] at h
    cases others with
    | nil =>
      rw [Text.join, List.intercalate_singleton]
      exact hone h.1
    | cons second others =>
      have hslash : isSeparator (.scalar '/') = true := rfl
      rw [join_slash_cons_cons, names_append_separator hslash, hone h.1, ih h.2]
      rfl

/-- Canonical names that are joined by slashes are a canonical text. -/
theorem normalize_join (h : ∀ name ∈ parts, name.normalize = name) :
    (Text.join "/" parts).normalize = Text.join "/" parts := by
  have hslash : (CodePoint.scalar '/').IsBarrier := isBarrier_of_isSeparator rfl
  induction parts with
  | nil => rfl
  | cons name others ih =>
    rw [List.forall_mem_cons] at h
    cases others with
    | nil =>
      rw [Text.join, List.intercalate_singleton]
      exact h.1
    | cons second others =>
      rw [join_slash_cons_cons, Text.normalize_append_barrier hslash, h.1, ih h.2]

/-- Behind a slash at the beginning only U+0000 is refused. -/
theorem nul_mem_of_isRefused (h : IsRefused (.scalar '/' :: rest)) :
    CodePoint.scalar '\x00' ∈ rest := by
  generalize ht : CodePoint.scalar '/' :: rest = t at h
  cases h with
  | nul h =>
    subst ht
    rcases List.mem_cons.mp h with hslash | hrest
    · cases hslash
    · exact hrest
  | backslash => cases ht
  | drive hletter =>
    cases ht
    cases hletter
  | someone => cases ht

/-- The text of a normal form is an argument for it, wherever relative paths begin. -/
theorem toPath_toText (roots : ArgumentRoots) (hhome : roots.home.isAbsolute = true)
    (hprogram : roots.program.isAbsolute = true) (hparts : ∀ name ∈ parts, IsPlain name)
    (option : Text) : toPath roots option (Path.toText ⟨.slash, parts⟩) = .ok ⟨.slash, parts⟩ := by
  have htext : Path.toText ⟨.slash, parts⟩ = .scalar '/' :: Text.join "/" parts := by
    rw [Path.toText, if_neg (fun h => by cases h.1)]
    rfl
  have hslash : (CodePoint.scalar '/').IsBarrier := isBarrier_of_isSeparator rfl
  have hcanonical : (Path.toText ⟨.slash, parts⟩).normalize =
      .scalar '/' :: Text.join "/" parts := by
    have hparted := Text.normalize_append_barrier hslash [] (Text.join "/" parts)
    rw [normalize_join fun name hname => (hparts name hname).canonical] at hparted
    rw [htext]
    exact hparted
  rcases toPath_cases hhome hprogram option (Path.toText ⟨.slash, parts⟩) with ⟨hrefused, -⟩ |
    ⟨-, found, hleads, hpath⟩
  · have hslashes : Text.Satisfies (· ≠ .scalar '\x00') "/" :=
      List.forall_mem_singleton.mpr (by decide)
    have hother : (Text.join "/" parts).Satisfies (· ≠ .scalar '\x00') :=
      Text.satisfies_join hslashes fun name hname c hc heq => (hparts name hname).nul (heq ▸ hc)
    rw [hcanonical] at hrefused
    exact absurd rfl (hother _ (nul_mem_of_isRefused hrefused))
  · rw [hcanonical] at hleads
    have hfound : found = parts := (hleads.eq_names rfl rfl).trans (names_join hparts)
    have hbelow : Path.parentName ∉ parts := fun h => (hparts _ h).below rfl
    rw [hpath, hfound, Path.climb_of_notMem hbelow, List.nil_append]

/-- With a program, a home and a base directory in normal form an argument is refused only in the
forms of `IsRefused`. Any other one comes to an absolute path in normal form. The text of this path
is an argument for the same path, whatever the base directory is. -/
theorem toPath_normalForm (hroots : AreNormal roots) (option raw : Text) :
    ((∃ fault, toPath roots option raw = .error fault) ↔ IsRefused raw.normalize) ∧
      (¬IsRefused raw.normalize → ∃ p, toPath roots option raw = .ok p ∧ p.root = .slash ∧
        (∀ name ∈ p.parts, IsPlain name) ∧
        ∀ base option', toPath { roots with base } option' p.toText = .ok p) := by
  rcases toPath_cases hroots.home hroots.program option raw with ⟨hrefused, hfault⟩ |
    ⟨haccepted, parts, hleads, hpath⟩
  · exact ⟨iff_of_true hfault hrefused, fun h => absurd hrefused h⟩
  · have hcanonical : raw.normalize.normalize = raw.normalize := Text.normalize_normalize raw
    have hnul : CodePoint.scalar '\x00' ∉ raw.normalize := fun h => haccepted (.nul h)
    have hplain : ∀ name ∈ Path.climb [] parts, IsPlain name := by
      intro name hname
      have hbelow : name ≠ Path.parentName := fun h =>
        Path.parentName_notMem_climb List.not_mem_nil parts (h ▸ hname)
      rcases of_mem_climb hname with hnone | hmem
      · cases hnone
      · exact hleads.isPlain hroots hcanonical hnul hmem hbelow
    refine ⟨iff_of_false ?_ haccepted, fun _ => ⟨_, hpath, rfl, hplain, ?_⟩⟩
    · rintro ⟨fault, hfault⟩
      rw [hpath] at hfault
      cases hfault
    · intro base option'
      exact toPath_toText { roots with base } hroots.home hroots.program hplain option'

/-- Three directories. -/
def sampleRoots : ArgumentRoots where
  program := ⟨.slash, ["zz", "app"]⟩
  home := ⟨.slash, ["zz", "home"]⟩
  base := ⟨.slash, ["zz", "work"]⟩

/-- Below the home directory separators of both kinds and double dots come to a normal form. The
text of it is read again, also from elsewhere. A drive without a separator is refused. -/
theorem toPath_sampleRoots :
    AreNormal sampleRoots ∧
      (∃ p, toPath sampleRoots "--docs" "~/a//..\\b" = .ok p ∧ p.toText = "/zz/home/b" ∧
        ∀ base option, toPath { sampleRoots with base } option p.toText = .ok p) ∧
      ∃ fault, toPath sampleRoots "--docs" "C:b" = .error fault := by
  have hroots : AreNormal sampleRoots := by
    have hnames : ∀ name ∈ sampleRoots.program.parts ++ sampleRoots.home.parts ++
        sampleRoots.base.parts, Path.isVoid name = false ∧ name ≠ Path.parentName ∧
          (∀ c ∈ name, isSeparator c = false) ∧ CodePoint.scalar '\x00' ∉ name ∧
          ∀ c ∈ name, c.value < 0xC0 := by decide
    refine ⟨rfl, rfl, rfl, fun name hname => ?_⟩
    obtain ⟨hvoid, hbelow, hunparted, hnul, hlow⟩ := hnames name hname
    exact ⟨hvoid, hbelow, hunparted, hnul, Text.normalize_of_lt hlow⟩
  have hdrive : IsRefused (Text.normalize "C:b") := by
    rw [Text.normalize_of_lt (by decide)]
    exact .drive rfl rfl
  have hhome : ¬IsRefused (Text.normalize "~/a//..\\b") := by
    rw [Text.normalize_of_lt (by decide), isRefused_iff]
    rintro (hnul | hhalf | ⟨next, rest, ht, hnext⟩)
    · exact absurd hnul (by decide)
    · cases hhalf
    · cases ht
      cases hnext
  obtain ⟨p, hpath, -, -, hagain⟩ := (toPath_normalForm hroots "--docs" "~/a//..\\b").2 hhome
  have htext : p.toText = "/zz/home/b" := by
    rw [toPath, Text.normalize_of_lt (by decide)] at hpath
    cases hpath
    rfl
  exact ⟨hroots, ⟨p, hpath, htext, hagain⟩, (toPath_normalForm hroots "--docs" "C:b").1.mpr hdrive⟩

end Argument

end CommandDocs
