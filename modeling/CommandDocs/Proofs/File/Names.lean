import CommandDocs.Proofs.File.Agreement
import Mathlib.Data.List.Basic

/-!
# Names with a suffix

A name that ends in a dot and more is split there into its stem and that suffix, and put
together again. The entries of a directory are the files that paths through it lead to.
-/

namespace CommandDocs

namespace Path

variable {name suffix : Text}

/-- A suffix that names are listed by: a dot and at least one more character, none of which
is a dot. -/
def IsSuffix (suffix : Text) : Prop :=
  ∃ more, suffix = .scalar '.' :: more ∧ more ≠ [] ∧ CodePoint.scalar '.' ∉ more

/-- A text is what stands before its last dot, the dot, and the rest. -/
theorem reverse_eq_of_split {c : CodePoint} {rest : Text}
    (h : name.reverse.drop (name.reverse.takeWhile (· != CodePoint.scalar '.')).length =
      c :: rest) :
    name = rest.reverse ++
      .scalar '.' :: (name.reverse.takeWhile (· != CodePoint.scalar '.')).reverse := by
  have hdrop : name.reverse.dropWhile (· != CodePoint.scalar '.') = c :: rest := by
    rw [← h]
    conv_rhs =>
      enter [2]
      rw [← List.takeWhile_append_dropWhile (p := (· != CodePoint.scalar '.')) (l := name.reverse)]
    rw [List.drop_left]
  have hdot : c = .scalar '.' := by
    have hne : name.reverse.dropWhile (· != CodePoint.scalar '.') ≠ [] := by
      rw [hdrop]
      exact List.cons_ne_nil c rest
    have hhead := List.head_dropWhile_not (· != CodePoint.scalar '.') hne
    simpa [hdrop] using hhead
  have hwhole := List.takeWhile_append_dropWhile (p := (· != CodePoint.scalar '.'))
    (l := name.reverse)
  rw [hdrop, hdot] at hwhole
  rw [← List.reverse_inj, List.reverse_append, List.reverse_cons, List.reverse_reverse,
    List.reverse_reverse, List.append_assoc, List.singleton_append, hwhole]

/-- A suffix is not empty. -/
theorem IsSuffix.ne_nil (h : IsSuffix suffix) : suffix ≠ [] := by
  obtain ⟨more, rfl, -⟩ := h
  exact List.cons_ne_nil _ more

/-- A name with a suffix is its stem with that suffix, and the stem is not empty. -/
theorem eq_append_of_splitName (h : (splitName name).2 ≠ []) :
    name = (splitName name).1 ++ (splitName name).2 ∧ (splitName name).1 ≠ [] := by
  generalize hsplit : splitName name = split at h ⊢
  rw [splitName] at hsplit
  split at hsplit
  · rename_i c rest hdrop
    split at hsplit
    · cases hsplit
      exact absurd rfl h
    · rename_i hparts
      cases hsplit
      refine ⟨reverse_eq_of_split hdrop, fun hempty => hparts ?_⟩
      rw [List.reverse_eq_nil_iff.mp hempty]
      simp
  · cases hsplit
    exact absurd rfl h

/-- Every name is its stem and its suffix, if it has one. -/
theorem append_splitName (name : Text) : (splitName name).1 ++ (splitName name).2 = name := by
  by_cases h : (splitName name).2 = []
  · rw [h, List.append_nil, splitName]
    rw [splitName] at h
    split
    · split
      · rfl
      · rename_i hdrop hparts
        simp only [hdrop, if_neg hparts] at h
        cases h
    · rfl
  · exact (eq_append_of_splitName h).1.symm

/-- A name that is not empty, with a suffix behind it, is split into the two. -/
theorem splitName_append (hname : name ≠ []) (hsuffix : IsSuffix suffix) :
    splitName (name ++ suffix) = (name, suffix) := by
  obtain ⟨more, rfl, hmore, hdot⟩ := hsuffix
  have hreverse : (name ++ CodePoint.scalar '.' :: more).reverse =
      more.reverse ++ .scalar '.' :: name.reverse := by
    rw [List.reverse_append, List.reverse_cons, List.append_assoc, List.singleton_append]
  have htail : (more.reverse ++ CodePoint.scalar '.' :: name.reverse).takeWhile
      (· != CodePoint.scalar '.') = more.reverse := by
    rw [List.takeWhile_append_of_pos, List.takeWhile_cons_of_neg (by simp), List.append_nil]
    intro c hc
    have hne : c ≠ .scalar '.' := fun h => hdot (h ▸ List.mem_reverse.mp hc)
    simpa using hne
  rw [splitName, hreverse, htail, List.drop_left]
  simp [hname, hmore]

/-- What is split off a name, if anything, is a suffix that names are listed by. -/
theorem isSuffix_of_splitName (h : (splitName name).2 ≠ []) : IsSuffix (splitName name).2 := by
  generalize hsplit : splitName name = split at h ⊢
  rw [splitName] at hsplit
  split at hsplit
  · split at hsplit
    · cases hsplit
      exact absurd rfl h
    · rename_i hparts
      cases hsplit
      refine ⟨_, rfl, fun hempty => hparts ?_, fun hmem => ?_⟩
      · rw [List.reverse_eq_nil_iff.mp hempty]
        rfl
      · -- the search from behind stops at the first dot
        have hother := List.mem_takeWhile_imp (List.mem_reverse.mp hmem)
        simp at hother
  · cases hsplit
    exact absurd rfl h

/-- No name with a suffix stands for the directory above. -/
theorem append_ne_parentName (hname : name ≠ []) (hsuffix : IsSuffix suffix) :
    name ++ suffix ≠ parentName := by
  intro h
  have hsplit := splitName_append hname hsuffix
  rw [h] at hsplit
  exact hsuffix.ne_nil (congrArg Prod.snd hsplit).symm

/-- Names are followed one after the other. -/
theorem climb_append (place : Place) (parts rest : List Text) :
    climb place (parts ++ rest) = climb (climb place parts) rest := by
  induction parts generalizing place with
  | nil => rfl
  | cons part parts ih =>
    rw [List.cons_append, climb, climb]
    split
    · exact ih _
    · exact ih _

/-- Without double dots names are followed further on. -/
theorem climb_of_notMem {parts : List Text} (h : parentName ∉ parts) (place : Place) :
    climb place parts = place ++ parts := by
  induction parts generalizing place with
  | nil => exact (List.append_nil place).symm
  | cons part rest ih =>
    rw [List.mem_cons, not_or] at h
    rw [climb, if_neg (Ne.symm h.1), ih h.2, List.append_assoc, List.singleton_append]

/-- Following names leaves no double dots. -/
theorem parentName_notMem_climb {place : Place} (h : parentName ∉ place) (parts : List Text) :
    parentName ∉ climb place parts := by
  induction parts generalizing place with
  | nil => exact h
  | cons part rest ih =>
    rw [climb]
    by_cases hpart : part = parentName
    · rw [if_pos hpart]
      exact ih fun hmem => h (List.dropLast_subset _ hmem)
    · rw [if_neg hpart]
      refine ih fun hmem => ?_
      rcases List.mem_append.mp hmem with hplace | hlast
      · exact h hplace
      · exact hpart (List.mem_singleton.mp hlast).symm

/-- A path from the root without double dots. -/
structure IsResolved (p : Path) : Prop where
  /-- It begins at the root. -/
  root : p.root = .slash
  /-- No name on it leads upwards. -/
  parts : parentName ∉ p.parts

/-- Resolving leads to such a path. -/
theorem isResolved_resolve (p : Path) : p.resolve.IsResolved :=
  ⟨rfl, parentName_notMem_climb (List.not_mem_nil) p.parts⟩

/-- The last name of an entry of a directory. -/
@[simp]
theorem name_child (p : Path) (name : Text) : (p.child name).name = name := by
  rw [Path.name, child, List.getLast?_concat, Option.getD_some]

end Path

namespace FileSystem

variable {fs : FileSystem} {p : Path} {place : Place} {name : Text}

/-- An entry of a directory lies one name further on. -/
theorem placeOf_child (hname : name ≠ Path.parentName) :
    fs.placeOf (p.child name) = fs.placeOf p ++ [name] := by
  have horigin : fs.origin (p.child name) = fs.origin p := rfl
  rw [placeOf, horigin, Path.child, Path.climb_append, Path.climb, if_neg hname]
  rfl

/-- A resolved path names the place of its names. -/
theorem placeOf_of_isResolved (h : p.IsResolved) : fs.placeOf p = p.parts := by
  have horigin : fs.origin p = [] := by
    rw [origin, Path.isAbsolute, h.root]
    rfl
  rw [placeOf, horigin, Path.climb_of_notMem h.parts, List.nil_append]

/-- Two resolved paths name two places. -/
theorem placeOf_ne_of_isResolved {q : Path} (hp : p.IsResolved) (hq : q.IsResolved) (hne : p ≠ q) :
    fs.placeOf p ≠ fs.placeOf q := by
  rw [placeOf_of_isResolved hp, placeOf_of_isResolved hq]
  intro hparts
  refine hne ?_
  rcases p with ⟨root, parts⟩
  rcases q with ⟨root', parts'⟩
  rw [Path.mk.injEq]
  exact ⟨hp.root.trans hq.root.symm, hparts⟩

/-- The names of entries are those that something bears. -/
theorem mem_childNames :
    name ∈ fs.childNames place ↔ ∃ node, fs.node? (place ++ [name]) = some node := by
  rw [← Option.isSome_iff_exists, node?, if_neg (by simp), Entries.isSome_find?, childNames,
    List.mem_filterMap, Entries.keys, List.mem_map]
  constructor
  · intro h
    rcases h with ⟨⟨other, node⟩, hmem, hlast⟩
    split at hlast
    · rename_i hplace
      refine ⟨_, hmem, ?_⟩
      rw [← beq_iff_eq.mp hplace]
      exact (List.dropLast_append_getLast? name hlast).symm
    · cases hlast
  · intro h
    rcases h with ⟨⟨other, node⟩, hmem, rfl⟩
    refine ⟨_, hmem, ?_⟩
    simp

/-- There is a file at a path exactly when it can be read. -/
theorem isFile_eq_true : fs.isFile p = .ok true ↔ ∃ content, fs.readFile p = .ok content := by
  rw [isFile, nodeAt?]
  constructor
  · intro h
    split at h
    · rename_i place node hlocate
      cases node with
      | file content => exact ⟨content, readFile_of_locate hlocate⟩
      | directory => cases h
    · cases h
    · split at h <;> cases h
  · intro h
    rcases h with ⟨content, hread⟩
    obtain ⟨place, hlocate⟩ := readFile_eq_ok.mp hread
    rw [hlocate]
    rfl

/-- The files among paths are those at which there is a file. -/
theorem mem_filesAmong {paths files : List Path} (h : fs.filesAmong paths = .ok files) :
    p ∈ files ↔ p ∈ paths ∧ fs.isFile p = .ok true := by
  induction paths generalizing files with
  | nil =>
    cases h
    simp
  | cons first rest ih =>
    rw [filesAmong, bind_eq_ok] at h
    obtain ⟨answer, hanswer, h⟩ := h
    rw [bind_eq_ok] at h
    obtain ⟨others, hothers, h⟩ := h
    cases h
    cases answer with
    | true =>
      simp only [if_true, List.mem_cons, ih hothers]
      constructor
      · intro h
        rcases h with rfl | ⟨hmem, hfile⟩
        · exact ⟨Or.inl rfl, hanswer⟩
        · exact ⟨Or.inr hmem, hfile⟩
      · intro h
        rcases h with ⟨rfl | hmem, hfile⟩
        · exact Or.inl rfl
        · exact Or.inr ⟨hmem, hfile⟩
    | false =>
      simp only [Bool.false_eq_true, if_false, List.mem_cons, ih hothers]
      constructor
      · intro h
        rcases h with ⟨hmem, hfile⟩
        exact ⟨Or.inr hmem, hfile⟩
      · intro h
        rcases h with ⟨rfl | hmem, hfile⟩
        · rw [hanswer] at hfile
          cases hfile
        · exact ⟨hmem, hfile⟩

/-- Files are found among paths as long as none of the paths is refused. -/
theorem exists_filesAmong {paths : List Path} :
    (∃ files, fs.filesAmong paths = .ok files) ↔
      ∀ p ∈ paths, ∃ answer, fs.isFile p = .ok answer := by
  induction paths with
  | nil => exact ⟨fun _ _ h => (nomatch h), fun _ => ⟨[], rfl⟩⟩
  | cons first rest ih =>
    simp only [filesAmong, bind_eq_ok, List.forall_mem_cons, ← ih]
    constructor
    · intro h
      rcases h with ⟨files, answer, hanswer, others, hothers, -⟩
      exact ⟨⟨answer, hanswer⟩, others, hothers⟩
    · intro h
      rcases h with ⟨⟨answer, hanswer⟩, others, hothers⟩
      exact ⟨_, answer, hanswer, others, hothers, rfl⟩

/-- A directory is listed where the path leads to it. -/
theorem listDirectory_eq_ok {entries : List Path} : fs.listDirectory p = .ok entries ↔
    (∃ place, fs.locate p = .ok (.present place .directory)) ∧
      entries = (fs.childNames (fs.placeOf p)).map p.child := by
  rw [listDirectory, bind_eq_ok]
  constructor
  · intro h
    rcases h with ⟨target, hlocate, h⟩
    have hplace := place_of_locate hlocate
    cases target with
    | absent place => cases h
    | present place node =>
      cases node with
      | file content => cases h
      | directory =>
        cases h
        rw [← hplace]
        exact ⟨⟨place, hlocate⟩, rfl⟩
  · intro h
    rcases h with ⟨⟨place, hlocate⟩, rfl⟩
    rw [← place_of_locate hlocate]
    exact ⟨_, hlocate, rfl⟩

/-- A file that is read through a directory is an entry of it. -/
theorem mem_childNames_of_readFile {content : Bytes} (hname : name ≠ Path.parentName)
    (h : fs.readFile (p.child name) = .ok content) : name ∈ fs.childNames (fs.placeOf p) := by
  obtain ⟨place, hlocate⟩ := readFile_eq_ok.mp h
  have hplace : place = fs.placeOf p ++ [name] :=
    (place_of_locate hlocate).trans (placeOf_child hname)
  rw [mem_childNames, ← hplace]
  exact ⟨_, (locate_iff.mp hlocate).2.present⟩

end FileSystem

end CommandDocs
