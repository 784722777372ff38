import CommandDocs.Proofs.File.Names
import Mathlib.Data.List.Nodup

/-!
# The order in which entries come

The entries of a directory come in the order in which the table of the files holds them.
Nothing but the listing of a directory can tell that order: paths lead to the same, the same
is read, and the same is written.
-/

namespace CommandDocs.FileSystem

/-- The same files in another order. Each place is held once. -/
structure Reordered (fs fs' : FileSystem) : Prop where
  /-- Relative paths begin in the same place. -/
  workingDirectory : fs'.workingDirectory = fs.workingDirectory
  /-- The same places hold the same nodes. -/
  nodes : fs'.nodes.Perm fs.nodes
  /-- No place is held twice. -/
  distinct : fs.nodes.keys.Nodup

variable {fs fs' made : FileSystem} {p : Path} {place : Place} {files paths paths' : List Path}

/-- An order can be changed back. -/
theorem Reordered.symm (h : Reordered fs fs') : Reordered fs' fs :=
  ⟨h.workingDirectory.symm, h.nodes.symm, Entries.nodup_keys_of_perm h.nodes h.distinct⟩

/-! ### What does not depend on the order -/

/-- At each place there is the same. -/
theorem Reordered.node? (h : Reordered fs fs') (place : Place) :
    fs'.node? place = fs.node? place := by
  rw [FileSystem.node?, FileSystem.node?, Entries.find?_of_perm h.nodes h.distinct]

/-- Names lead to the same. -/
theorem Reordered.follow (h : Reordered fs fs') (place : Place) (parts : List Text) :
    fs'.follow place parts = fs.follow place parts := by
  induction parts generalizing place with
  | nil => rw [FileSystem.follow, FileSystem.follow, h.node?]
  | cons part rest ih => rw [FileSystem.follow, FileSystem.follow, h.node?, h.node?, ih, ih]

/-- A path leads to the same. -/
theorem Reordered.locate (h : Reordered fs fs') (p : Path) : fs'.locate p = fs.locate p := by
  rw [FileSystem.locate, FileSystem.locate, origin, origin, h.workingDirectory, h.follow]

/-- A path names the same place. -/
theorem Reordered.placeOf (h : Reordered fs fs') (p : Path) : fs'.placeOf p = fs.placeOf p := by
  rw [FileSystem.placeOf, FileSystem.placeOf, origin, origin, h.workingDirectory]

/-- At a path there is a file in both orders or in neither. -/
theorem Reordered.isFile (h : Reordered fs fs') (p : Path) : fs'.isFile p = fs.isFile p := by
  rw [FileSystem.isFile, FileSystem.isFile, nodeAt?, nodeAt?, h.locate]

/-- The same page is read, or the same fault is met. -/
theorem Reordered.readPage (h : Reordered fs fs') (p : Path) : fs'.readPage p = fs.readPage p := by
  simp only [FileSystem.readPage, readText, readFile, h.locate]

/-- A node is put at the same place. -/
theorem Reordered.setNode (h : Reordered fs fs') (place : Place) (node : Node) :
    Reordered (fs.setNode place node) (fs'.setNode place node) :=
  ⟨h.workingDirectory, Entries.put_perm h.nodes h.distinct place node,
    Entries.nodup_keys_put h.distinct⟩

/-- The same file is updated. -/
theorem Reordered.updateFile (h : Reordered fs fs') {change : Bytes → Bytes}
    (hupdate : fs.updateFile p change = .ok made) :
    ∃ made', fs'.updateFile p change = .ok made' ∧ Reordered made made' := by
  rw [FileSystem.updateFile] at hupdate ⊢
  rw [h.locate]
  cases hlocate : fs.locate p with
  | error e =>
    rw [hlocate] at hupdate
    cases hupdate
  | ok target =>
    rw [hlocate] at hupdate
    cases target with
    | absent place =>
      cases hupdate
      exact ⟨_, rfl, h.setNode _ _⟩
    | present place node =>
      cases node with
      | directory => cases hupdate
      | file content =>
        cases hupdate
        exact ⟨_, rfl, h.setNode _ _⟩

/-! ### Entries of a directory -/

/-- The entries of a directory are its names among the places. -/
theorem childNames_eq_filterMap (fs : FileSystem) (place : Place) :
    fs.childNames place = fs.nodes.keys.filterMap fun other =>
      if other.dropLast == place then other.getLast? else none := by
  rw [childNames, Entries.keys, List.filterMap_map]
  rfl

/-- The entries of a directory have distinct names. -/
theorem nodup_childNames (h : fs.nodes.keys.Nodup) (place : Place) :
    (fs.childNames place).Nodup := by
  rw [childNames_eq_filterMap]
  refine h.filterMap fun first second name hfirst hsecond => ?_
  split_ifs at hfirst hsecond with hplace hplace'
  · rw [← List.dropLast_append_getLast? name hfirst, ← List.dropLast_append_getLast? name hsecond,
      beq_iff_eq.mp hplace, beq_iff_eq.mp hplace']
  all_goals simp_all

/-- In both orders a directory has the same entries. -/
theorem Reordered.childNames (h : Reordered fs fs') (place : Place) :
    (fs'.childNames place).Perm (fs.childNames place) := h.nodes.filterMap _

/-- The files among paths come in the order of the paths. -/
theorem sublist_of_filesAmong (h : fs.filesAmong paths = .ok files) : files.Sublist paths := by
  induction paths generalizing files with
  | nil =>
    cases h
    exact .slnil
  | cons first rest ih =>
    rw [filesAmong, bind_eq_ok] at h
    obtain ⟨answer, -, h⟩ := h
    rw [bind_eq_ok] at h
    obtain ⟨others, hothers, h⟩ := h
    cases h
    cases answer with
    | true => exact (ih hothers).cons_cons first
    | false => exact (ih hothers).cons first

/-- Among distinct paths in another order there are the same files. -/
theorem Reordered.filesAmong (h : Reordered fs fs') (hpaths : paths'.Perm paths)
    (hdistinct : paths.Nodup) (hfiles : fs.filesAmong paths = .ok files) :
    ∃ files', fs'.filesAmong paths' = .ok files' ∧ files'.Perm files := by
  have hall : ∀ p ∈ paths', ∃ answer, fs'.isFile p = .ok answer := by
    intro p hp
    rw [h.isFile]
    exact exists_filesAmong.mp ⟨files, hfiles⟩ p (hpaths.mem_iff.mp hp)
  obtain ⟨files', hfiles'⟩ := exists_filesAmong.mpr hall
  refine ⟨files', hfiles', ?_⟩
  have hdistinct' : paths'.Nodup := hpaths.nodup_iff.mpr hdistinct
  rw [List.perm_ext_iff_of_nodup (hdistinct'.sublist (sublist_of_filesAmong hfiles'))
    (hdistinct.sublist (sublist_of_filesAmong hfiles))]
  intro p
  rw [mem_filesAmong hfiles', mem_filesAmong hfiles, h.isFile, hpaths.mem_iff]

end CommandDocs.FileSystem
