import CommandDocs.Proofs.File.Agreement

/-!
# Directories that are made

Making directories takes nothing away: whatever a path led to, it still leads to. Where all
of them were made the path leads to a directory, and where one of them was not, the path
leads to none afterwards either.
-/

namespace CommandDocs

/-- Without the last piece a joined text is a beginning of the whole. -/
theorem Text.join_dropLast_isPrefix (separator : Text) (pieces : List Text) :
    Text.join separator pieces.dropLast <+: Text.join separator pieces := by
  induction pieces with
  | nil => exact List.prefix_rfl
  | cons piece rest ih =>
    cases rest with
    | nil => exact List.nil_prefix
    | cons next rest =>
      cases rest with
      | nil => exact ⟨separator ++ next, by simp [Text.join, List.intercalate]⟩
      | cons last rest =>
        have hjoin : ∀ others : List Text, Text.join separator (piece :: next :: others) =
            piece ++ separator ++ Text.join separator (next :: others) := by
          intro others
          simp [Text.join, List.intercalate]
        rw [List.dropLast_cons_cons, List.dropLast_cons_cons, hjoin, hjoin,
          ← List.dropLast_cons_cons]
        exact (List.prefix_append_right_inj _).mpr ih

namespace FileSystem

variable {fs fs' fs'' : FileSystem} {p : Path} {place : Place} {node : Node}

/-- A text with something behind it is no longer than both. -/
theorem byteLength_le_of_isPrefix {s t : Text} (h : s <+: t) : byteLength s ≤ byteLength t := by
  obtain ⟨more, rfl⟩ := h
  rw [byteLength, byteLength, List.flatMap_append, List.length_append]
  exact Nat.le_add_right _ _

/-- The names above a path are names of the path. -/
theorem HasNul.of_parent (h : HasNul p.parent) : HasNul p := by
  obtain ⟨part, hpart, hcontains⟩ := List.any_eq_true.mp h
  exact List.any_eq_true.mpr ⟨part, List.dropLast_subset _ hpart, hcontains⟩

/-- The directory above a path can be told if the path can. -/
theorem CanTell.parent (h : CanTell p) : CanTell p.parent := by
  obtain ⟨hnul, hlength⟩ := h
  constructor
  · exact fun hparent => hnul hparent.of_parent
  · by_cases hempty : p.parent.root = .relative ∧ p.parent.parts = []
    · rw [Path.toText, if_pos hempty]
      decide
    · have hwhole : ¬(p.root = .relative ∧ p.parts = []) := by
        intro h
        exact hempty ⟨h.1, by rw [Path.parent, h.2, List.dropLast_nil]⟩
      refine Nat.le_trans (byteLength_le_of_isPrefix ?_) hlength
      rw [Path.toText, if_neg hempty, Path.toText, if_neg hwhole]
      exact (List.prefix_append_right_inj _).mpr (Text.join_dropLast_isPrefix _ _)

/-- Names that lead somewhere lead through a directory before the last of them. -/
theorem Leads.dropLast {start : Place} {parts : List Text} {target : Target}
    (h : Leads fs start parts target) (hparts : parts ≠ []) :
    ∃ place, Leads fs start parts.dropLast (.present place .directory) := by
  induction h with
  | here _ => exact absurd rfl hparts
  | @up place rest target hstart hrest ih =>
    cases rest with
    | nil => exact ⟨place, .here hstart⟩
    | cons next rest =>
      obtain ⟨above, habove⟩ := ih (List.cons_ne_nil _ _)
      exact ⟨above, .up hstart habove⟩
  | @free place part hstart _ _ _ => exact ⟨place, .here hstart⟩
  | @down place part rest target next hstart hpart hlength hnext hrest ih =>
    cases rest with
    | nil => exact ⟨place, .here hstart⟩
    | cons next rest =>
      obtain ⟨above, habove⟩ := ih (List.cons_ne_nil _ _)
      exact ⟨above, .down hstart hpart hlength hnext habove⟩

/-- A path that leads somewhere has a directory above it. -/
theorem locate_parent {target : Target} (h : fs.locate p = .ok target) (hparts : p.parts ≠ []) :
    ∃ place, fs.locate p.parent = .ok (.present place .directory) := by
  rw [locate_iff] at h
  obtain ⟨place, hleads⟩ := h.2.dropLast hparts
  exact ⟨place, locate_iff.mpr ⟨h.1.parent, hleads⟩⟩

/-! ### What was there stays there -/

/-- The second files hold at least what the first ones hold. -/
structure Grows (fs fs' : FileSystem) : Prop where
  /-- Relative paths begin in the same place. -/
  workingDirectory : fs'.workingDirectory = fs.workingDirectory
  /-- What is at a place is kept. -/
  kept : ∀ place node, fs.node? place = some node → fs'.node? place = some node

/-- Files hold what they hold. -/
theorem Grows.refl (fs : FileSystem) : Grows fs fs := ⟨rfl, fun _ _ h => h⟩

/-- What is kept twice is kept. -/
theorem Grows.trans (h : Grows fs fs') (h' : Grows fs' fs'') : Grows fs fs'' :=
  ⟨h'.workingDirectory.trans h.workingDirectory,
    fun place node hnode => h'.kept place node (h.kept place node hnode)⟩

/-- Paths name the same places. -/
theorem Grows.placeOf_eq (h : Grows fs fs') (p : Path) : fs'.placeOf p = fs.placeOf p := by
  rw [placeOf, placeOf, origin, origin, h.workingDirectory]

/-- A path that leads to something still leads to it. -/
theorem Grows.locate (h : Grows fs fs') (hlocate : fs.locate p = .ok (.present place node)) :
    fs'.locate p = .ok (.present place node) :=
  locate_of_keeps hlocate h.workingDirectory (fun other => h.kept other .directory)
    (h.kept _ _ (locate_iff.mp hlocate).2.present)

/-- A file that is there is still read. -/
theorem Grows.readFile (h : Grows fs fs') {content : Bytes} (hread : fs.readFile p = .ok content) :
    fs'.readFile p = .ok content := by
  obtain ⟨place, hlocate⟩ := readFile_eq_ok.mp hread
  exact readFile_eq_ok.mpr ⟨place, h.locate hlocate⟩

/-- A node that is put where nothing is takes nothing away. -/
theorem grows_setNode (hplace : place ≠ []) (hnone : fs.node? place = none) (node : Node) :
    Grows fs (fs.setNode place node) := by
  refine ⟨rfl, fun other old hold => ?_⟩
  have hne : place ≠ other := by
    intro h
    rw [← h, hnone] at hold
    cases hold
  rw [node?_setNode hplace, if_neg hne]
  exact hold

/-! ### One directory -/

/-- A directory is made at a free place. -/
theorem makeDirectory_eq_ok (h : fs.makeDirectory p = .ok fs') :
    ∃ place, fs.locate p = .ok (.absent place) ∧ fs' = fs.setNode place .directory := by
  rw [makeDirectory, bind_eq_ok] at h
  obtain ⟨target, hlocate, h⟩ := h
  cases target with
  | present place node => cases h
  | absent place =>
    cases h
    exact ⟨place, hlocate, rfl⟩

/-- There is a directory at a path that leads to one. -/
theorem isDirectory_eq_true :
    fs.isDirectory p = .ok true ↔ ∃ place, fs.locate p = .ok (.present place .directory) := by
  rw [isDirectory, nodeAt?]
  constructor
  · intro h
    split at h
    · rename_i place node hlocate
      cases node with
      | directory => exact ⟨place, hlocate⟩
      | file content => cases h
    · cases h
    · split at h <;> cases h
  · intro h
    rcases h with ⟨place, hlocate⟩
    rw [hlocate]
    rfl

/-- A directory that is there need not be made. -/
theorem ensureDirectory_of_present (h : fs.locate p = .ok (.present place .directory)) :
    fs.ensureDirectory p = .ok fs := by
  have hmake : fs.makeDirectory p = .error ⟨.alreadyExists, p⟩ := by
    simp only [makeDirectory, h, bind, Except.bind]
  rw [ensureDirectory, hmake, isDirectory_eq_true.mpr ⟨place, h⟩]

/-- Once it has been made there is a directory, and nothing was taken away. -/
theorem present_of_ensureDirectory (h : fs.ensureDirectory p = .ok fs') :
    Grows fs fs' ∧ ∃ place, fs'.locate p = .ok (.present place .directory) := by
  rw [ensureDirectory] at h
  cases hmake : fs.makeDirectory p with
  | ok made =>
    rw [hmake] at h
    cases h
    obtain ⟨place, hlocate, rfl⟩ := makeDirectory_eq_ok hmake
    obtain ⟨hplace, hnone⟩ := (locate_iff.mp hlocate).2.absent
    have hfree : fs.node? place ≠ some .directory := by simp [hnone]
    exact ⟨grows_setNode hplace hnone _, place, locate_setNode hlocate hplace hfree _⟩
  | error e =>
    rw [hmake] at h
    dsimp only at h
    split at h
    · rename_i hthere
      cases h
      exact ⟨.refl fs, isDirectory_eq_true.mp hthere⟩
    · cases h
    · cases h

/-- A directory that cannot be made is not there. -/
theorem not_present_of_ensureDirectory {e : FileError} (h : fs.ensureDirectory p = .error e)
    (place : Place) : fs.locate p ≠ .ok (.present place .directory) := by
  intro hlocate
  rw [ensureDirectory_of_present hlocate] at h
  cases h

/-! ### All directories on the way -/

/-- A directory that is there need not be made, nor those above it. -/
theorem ensureDirectories_of_present (h : fs.locate p = .ok (.present place .directory)) :
    fs.ensureDirectories p = (.ok (), fs) := by
  rw [ensureDirectories, ensureDirectory_of_present h]

/-- How an attempt to make a directory and those above it goes on. -/
inductive Makes (fs : FileSystem) : Path → Except FileError Unit → FileSystem → Prop
  /-- The directory is there or is made. -/
  | made {p : Path} {made : FileSystem} (hmade : fs.ensureDirectory p = .ok made) :
    Makes fs p (.ok ()) made
  /-- It cannot be made, whatever is above it. -/
  | blocked {p : Path} {e : FileError} (hfault : fs.ensureDirectory p = .error e) :
    Makes fs p (.error e) fs
  /-- The directory above cannot be made. -/
  | blockedAbove {p : Path} {e : FileError} {above : FileSystem} (hparts : p.parts ≠ [])
    (habove : Makes fs p.parent (.error e) above) : Makes fs p (.error e) above
  /-- It is made after the one above it. -/
  | madeBelow {p : Path} {above made : FileSystem} (habove : Makes fs p.parent (.ok ()) above)
    (hmade : above.ensureDirectory p = .ok made) : Makes fs p (.ok ()) made
  /-- It cannot be made even so. -/
  | blockedBelow {p : Path} {above : FileSystem} {e : FileError}
    (habove : Makes fs p.parent (.ok ()) above) (hfault : above.ensureDirectory p = .error e) :
    Makes fs p (.error e) above

/-- Directories are made in one of these ways. -/
theorem makes_ensureDirectories (fs : FileSystem) (p : Path) :
    Makes fs p (fs.ensureDirectories p).1 (fs.ensureDirectories p).2 := by
  induction p using ensureDirectories.induct fs with
  | case1 p made hmade =>
    rw [ensureDirectories, hmade]
    exact .made hmade
  | case2 p e hfault hmissing e' above habove ih =>
    rw [habove] at ih
    rw [ensureDirectories, hfault]
    dsimp only
    rw [dif_pos hmissing, habove]
    exact .blockedAbove hmissing.1 ih
  | case3 p e hfault hmissing above habove made hmade ih =>
    rw [habove] at ih
    rw [ensureDirectories, hfault]
    dsimp only
    rw [dif_pos hmissing, habove]
    dsimp only
    rw [hmade]
    exact .madeBelow ih hmade
  | case4 p e hfault hmissing above habove e' hlast ih =>
    rw [habove] at ih
    rw [ensureDirectories, hfault]
    dsimp only
    rw [dif_pos hmissing, habove]
    dsimp only
    rw [hlast]
    exact .blockedBelow ih hlast
  | case5 p e hfault hmissing =>
    rw [ensureDirectories, hfault]
    dsimp only
    rw [dif_neg hmissing]
    exact .blocked hfault

/-- What an attempt to make directories leads to. Nothing is taken away; after success the
path leads to a directory, and after a failure it leads to none. -/
theorem ensureDirectories_spec (fs : FileSystem) (p : Path) :
    Grows fs (fs.ensureDirectories p).2 ∧
      ((fs.ensureDirectories p).1 = .ok () →
        ∃ place, (fs.ensureDirectories p).2.locate p = .ok (.present place .directory)) ∧
      ∀ e, (fs.ensureDirectories p).1 = .error e →
        ∀ place, (fs.ensureDirectories p).2.locate p ≠ .ok (.present place .directory) := by
  have h := makes_ensureDirectories fs p
  generalize (fs.ensureDirectories p).1 = outcome, (fs.ensureDirectories p).2 = result at h ⊢
  induction h with
  | made hmade =>
    obtain ⟨hgrows, hpresent⟩ := present_of_ensureDirectory hmade
    exact ⟨hgrows, fun _ => hpresent, fun e h => by cases h⟩
  | blocked hfault =>
    exact ⟨.refl fs, fun h => (by cases h), fun _ _ => not_present_of_ensureDirectory hfault⟩
  | @blockedAbove p e above hparts _ ih =>
    refine ⟨ih.1, fun h => (by cases h), fun _ _ place hlocate => ?_⟩
    -- a directory at the path would have one above it
    obtain ⟨parent, hparent⟩ := locate_parent hlocate hparts
    exact ih.2.2 e rfl parent hparent
  | madeBelow _ hmade ih =>
    obtain ⟨hgrows, hpresent⟩ := present_of_ensureDirectory hmade
    exact ⟨ih.1.trans hgrows, fun _ => hpresent, fun e h => by cases h⟩
  | blockedBelow _ hfault ih =>
    exact ⟨ih.1, fun h => (by cases h), fun _ _ => not_present_of_ensureDirectory hfault⟩

/-- Making directories takes nothing away. -/
theorem grows_ensureDirectories (fs : FileSystem) (p : Path) :
    Grows fs (fs.ensureDirectories p).2 := (ensureDirectories_spec fs p).1

/-- A directory that is made is no file. -/
theorem file_of_ensureDirectory {content : Bytes} (h : fs.ensureDirectory p = .ok fs')
    (hfile : fs'.node? place = some (.file content)) : fs.node? place = some (.file content) := by
  rw [ensureDirectory] at h
  cases hmake : fs.makeDirectory p with
  | ok made =>
    rw [hmake] at h
    cases h
    obtain ⟨target, hlocate, rfl⟩ := makeDirectory_eq_ok hmake
    rw [node?_setNode (locate_iff.mp hlocate).2.absent.1] at hfile
    split at hfile
    · cases hfile
    · exact hfile
  | error e =>
    rw [hmake] at h
    dsimp only at h
    split at h <;> cases h
    exact hfile

/-- What each directory on the way preserves when it is made, all of them preserve, also when one of
them cannot be made. -/
theorem ensureDirectories_preserves {P : FileSystem → Prop} (p : Path)
    (hstep : ∀ fs fs' q, q.root = p.root → q.parts <+: p.parts → P fs →
      fs.ensureDirectory q = .ok fs' → P fs') (h : P fs) : P (fs.ensureDirectories p).2 := by
  -- the directories above are on the way
  have hparent {p : Path} (hstep : ∀ fs fs' q, q.root = p.root → q.parts <+: p.parts → P fs →
      fs.ensureDirectory q = .ok fs' → P fs') (fs fs' : FileSystem) (q : Path)
      (hroot : q.root = p.parent.root) (hparts : q.parts <+: p.parent.parts) :
      P fs → fs.ensureDirectory q = .ok fs' → P fs' :=
    hstep fs fs' q hroot (hparts.trans (List.dropLast_prefix _))
  have hmakes := makes_ensureDirectories fs p
  generalize (fs.ensureDirectories p).1 = outcome, (fs.ensureDirectories p).2 = result at hmakes ⊢
  induction hmakes with
  | made hmade => exact hstep fs _ _ rfl List.prefix_rfl h hmade
  | blocked _ => exact h
  | blockedAbove _ _ ih => exact ih (hparent hstep)
  | madeBelow _ hmade ih => exact hstep _ _ _ rfl List.prefix_rfl (ih (hparent hstep)) hmade
  | blockedBelow _ _ ih => exact ih (hparent hstep)

/-- Making directories makes no file. -/
theorem file_of_ensureDirectories {content : Bytes}
    (hfile : (fs.ensureDirectories p).2.node? place = some (.file content)) :
    fs.node? place = some (.file content) := by
  refine ensureDirectories_preserves (P := fun made : FileSystem =>
    made.node? place = some (.file content) → fs.node? place = some (.file content)) p ?_ id hfile
  intro made made' q hroot hparts hmade hensure hfile'
  exact hmade (file_of_ensureDirectory hensure hfile')

/-- Without names to follow an attempt that fails changes nothing. -/
theorem ensureDirectories_of_no_parts (hparts : p.parts = []) {e : FileError}
    (h : (fs.ensureDirectories p).1 = .error e) : (fs.ensureDirectories p).2 = fs := by
  rw [ensureDirectories] at h ⊢
  cases hmake : fs.ensureDirectory p with
  | ok made =>
    rw [hmake] at h
    cases h
  | error e' =>
    dsimp only
    rw [dif_neg fun h => h.1 hparts]

/-- Where the directories above a path could not be made, the same can be read at it as
before. -/
theorem readFile_of_ensureDirectories_error {e : FileError}
    (h : (fs.ensureDirectories p.parent).1 = .error e) (content : Bytes) :
    (fs.ensureDirectories p.parent).2.readFile p = .ok content ↔ fs.readFile p = .ok content := by
  refine ⟨fun hread => ?_, (grows_ensureDirectories fs p.parent).readFile⟩
  by_cases hparts : p.parts = []
  · have hparent : p.parent.parts = [] := by rw [Path.parent, hparts, List.dropLast_nil]
    rw [ensureDirectories_of_no_parts hparent h] at hread
    exact hread
  · -- a file would have a directory above it
    obtain ⟨place, hlocate⟩ := readFile_eq_ok.mp hread
    obtain ⟨above, habove⟩ := locate_parent hlocate hparts
    exact absurd habove ((ensureDirectories_spec fs p.parent).2.2 e h above)

/-- A file can only be opened at a path with names. -/
theorem CanOpen.parts_ne_nil (h : CanOpen fs p) : p.parts ≠ [] := by
  intro hparts
  obtain ⟨hdirectories, opened, hopened⟩ := h
  -- such a path is above itself, so that it would lead to a directory
  have hparent : p.parent = p := by rw [Path.parent, hparts, List.dropLast_nil, ← hparts]
  rw [hparent] at hdirectories hopened
  obtain ⟨place, hlocate⟩ := (ensureDirectories_spec fs p).2.1 hdirectories
  simp only [writeFile, updateFile, hlocate, bind, Except.bind] at hopened
  cases hopened

/-- A file that is there can be opened. -/
theorem canOpen_of_readFile {content : Bytes} (h : fs.readFile p = .ok content)
    (hparts : p.parts ≠ []) : CanOpen fs p := by
  obtain ⟨place, hlocate⟩ := readFile_eq_ok.mp h
  obtain ⟨above, habove⟩ := locate_parent hlocate hparts
  have hopened : fs.writeFile p [] = .ok (fs.setNode place (.file [])) := by
    simp only [writeFile, updateFile, hlocate, bind, Except.bind]
  rw [CanOpen, ensureDirectories_of_present habove]
  exact ⟨rfl, _, hopened⟩

end FileSystem

end CommandDocs
