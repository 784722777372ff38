import CommandDocs.Proofs.File.Writing
import CommandDocs.Proofs.Outcome

/-!
# Files that agree apart from one

Two states of the files that differ at most at one place, where neither has a directory.
A path that names another place leads to the same in both, so that whatever is read at
it is the same.
-/

namespace CommandDocs.FileSystem

/-- The files are the same but perhaps at one place, and there is no directory at it. -/
structure AgreesOff (hidden : Option Place) (fs fs' : FileSystem) : Prop where
  /-- Relative paths begin in the same place. -/
  workingDirectory : fs'.workingDirectory = fs.workingDirectory
  /-- Everywhere else the nodes are the same. -/
  node : ∀ place, fs'.node? place = fs.node? place ∨ hidden = some place ∧
    fs.node? place ≠ some .directory ∧ fs'.node? place ≠ some .directory

variable {hidden : Option Place} {fs fs' fs'' : FileSystem} {p : Path} {place : Place} {node : Node}

/-- Files agree with themselves. -/
theorem AgreesOff.refl (hidden : Option Place) (fs : FileSystem) : AgreesOff hidden fs fs :=
  ⟨rfl, fun _ => Or.inl rfl⟩

/-- Agreement is mutual. -/
theorem AgreesOff.symm (h : AgreesOff hidden fs fs') : AgreesOff hidden fs' fs := by
  refine ⟨h.workingDirectory.symm, fun place => ?_⟩
  rcases h.node place with hsame | ⟨hplace, hfs, hfs'⟩
  · exact Or.inl hsame.symm
  · exact Or.inr ⟨hplace, hfs', hfs⟩

/-- Agreement is passed on. -/
theorem AgreesOff.trans (h : AgreesOff hidden fs fs') (h' : AgreesOff hidden fs' fs'') :
    AgreesOff hidden fs fs'' := by
  refine ⟨h'.workingDirectory.trans h.workingDirectory, fun place => ?_⟩
  rcases h.node place with hsame | ⟨hplace, hfs, hfs'⟩
  · rcases h'.node place with hsame' | ⟨hplace', hfs', hfs''⟩
    · exact Or.inl (hsame'.trans hsame)
    · exact Or.inr ⟨hplace', hsame ▸ hfs', hfs''⟩
  · rcases h'.node place with hsame' | ⟨-, -, hfs''⟩
    · exact Or.inr ⟨hplace, hfs, hsame' ▸ hfs'⟩
    · exact Or.inr ⟨hplace, hfs, hfs''⟩

/-- At any other place the nodes are the same. -/
theorem AgreesOff.node_eq (h : AgreesOff hidden fs fs') (hplace : hidden ≠ some place) :
    fs'.node? place = fs.node? place :=
  (h.node place).resolve_right fun hother => hplace hother.1

/-- Directories are the same throughout. -/
theorem AgreesOff.directory (h : AgreesOff hidden fs fs')
    (hplace : fs.node? place = some .directory) : fs'.node? place = some .directory := by
  rcases h.node place with hsame | ⟨-, hfs, -⟩
  · rw [hsame, hplace]
  · exact absurd hplace hfs

/-- Paths name the same places. -/
theorem AgreesOff.placeOf_eq (h : AgreesOff hidden fs fs') (p : Path) :
    fs'.placeOf p = fs.placeOf p := by
  rw [placeOf, placeOf, origin, origin, h.workingDirectory]

/-- A path that leads somewhere leads to the place that it names. -/
theorem place_of_locate {target : Target} (h : fs.locate p = .ok target) :
    target.place = fs.placeOf p := (locate_iff.mp h).2.place_eq

/-- An update changes no file but the one at the place that the path names. -/
theorem AgreesOff.of_updateFile {change : Bytes → Bytes}
    (h : fs.updateFile p change = .ok fs') : AgreesOff (some (fs.placeOf p)) fs fs' := by
  obtain ⟨target, content, hlocate, hplace, hfree, rfl⟩ := updateFile_eq_ok h
  refine ⟨rfl, fun other => ?_⟩
  rw [node?_setNode hplace, ← place_of_locate hlocate]
  by_cases hother : target.place = other
  · rw [if_pos hother, ← hother]
    exact Or.inr ⟨rfl, hfree, by simp⟩
  · rw [if_neg hother]
    exact Or.inl rfl

/-- A path that names another place leads to the same. -/
theorem AgreesOff.locate (h : AgreesOff hidden fs fs') (hp : hidden ≠ some (fs.placeOf p))
    (hlocate : fs.locate p = .ok (.present place node)) :
    fs'.locate p = .ok (.present place node) := by
  have hplace : place = fs.placeOf p := place_of_locate hlocate
  refine locate_of_keeps hlocate h.workingDirectory (fun _ => h.directory) ?_
  rw [Target.place, h.node_eq (hplace ▸ hp)]
  exact (locate_iff.mp hlocate).2.present

/-- A file is read where the path leads to it. -/
theorem readFile_eq_ok {content : Bytes} : fs.readFile p = .ok content ↔
    ∃ place, fs.locate p = .ok (.present place (.file content)) := by
  constructor
  · intro h
    rw [readFile, bind_eq_ok] at h
    obtain ⟨target, hlocate, hread⟩ := h
    cases target with
    | absent place => cases hread
    | present place node =>
      cases node with
      | directory => cases hread
      | file content =>
        cases hread
        exact ⟨place, hlocate⟩
  · intro h
    rcases h with ⟨place, hlocate⟩
    exact readFile_of_locate hlocate

/-- At a path that names another place the same is read. -/
theorem AgreesOff.readFile (h : AgreesOff hidden fs fs') (hp : hidden ≠ some (fs.placeOf p))
    {content : Bytes} (hread : fs.readFile p = .ok content) : fs'.readFile p = .ok content := by
  obtain ⟨place, hlocate⟩ := readFile_eq_ok.mp hread
  exact readFile_eq_ok.mpr ⟨place, h.locate hp hlocate⟩

/-- At a path that names another place the same text is read. -/
theorem AgreesOff.readText (h : AgreesOff hidden fs fs') (hp : hidden ≠ some (fs.placeOf p))
    {text : Text} (hread : fs.readText p = .ok text) : fs'.readText p = .ok text := by
  simp only [FileSystem.readText, bind_eq_ok, mapError_eq_ok] at hread ⊢
  obtain ⟨content, hcontent, hrest⟩ := hread
  exact ⟨content, h.readFile hp hcontent, hrest⟩

/-! ### What is at a path -/

/-- A path that leads to a directory still leads to it. -/
theorem AgreesOff.locate_directory (h : AgreesOff hidden fs fs')
    (hlocate : fs.locate p = .ok (.present place .directory)) :
    fs'.locate p = .ok (.present place .directory) :=
  locate_of_keeps hlocate h.workingDirectory (fun _ => h.directory)
    (h.directory (locate_iff.mp hlocate).2.present)

/-- A name that is too long is met behind the same directories. -/
theorem AgreesOff.follow_tooLong (h : AgreesOff hidden fs fs') {start : Place} {parts : List Text}
    (hfollow : fs.follow start parts = .error .nameTooLong) :
    fs'.follow start parts = .error .nameTooLong := by
  induction parts generalizing start with
  | nil =>
    rw [follow] at hfollow
    split at hfollow <;> cases hfollow
  | cons part rest ih =>
    rw [follow] at hfollow ⊢
    cases hstart : fs.node? start with
    | none =>
      rw [hstart] at hfollow
      cases hfollow
    | some node =>
      cases node with
      | file content =>
        rw [hstart] at hfollow
        cases hfollow
      | directory =>
        rw [hstart] at hfollow
        rw [h.directory hstart]
        dsimp only at hfollow ⊢
        by_cases hpart : part = Path.parentName
        · rw [if_pos hpart] at hfollow ⊢
          exact ih hfollow
        rw [if_neg hpart] at hfollow ⊢
        by_cases hlong : nameBound < byteLength part
        · rw [if_pos hlong]
        rw [if_neg hlong] at hfollow ⊢
        cases rest with
        | nil =>
          -- behind the last name there is none that could be too long
          rw [follow] at hfollow
          cases hnext : fs.node? (start ++ [part]) <;> rw [hnext] at hfollow <;> cases hfollow
        | cons next rest =>
          simp only [List.isEmpty_cons, Bool.and_false, Bool.false_eq_true, if_false]
            at hfollow ⊢
          exact ih hfollow

/-- A path that is too long is too long in both. -/
theorem AgreesOff.locate_tooLong (h : AgreesOff hidden fs fs') {e : FileError}
    (hlocate : fs.locate p = .error e) (he : e.fault = .nameTooLong) :
    fs'.locate p = .error e := by
  have horigin : fs'.origin p = fs.origin p := by rw [origin, origin, h.workingDirectory]
  rw [FileSystem.locate, mapError_eq_error] at hlocate ⊢
  obtain ⟨fault, hfault, rfl⟩ := hlocate
  have hlong : fault = .nameTooLong := he
  subst hlong
  refine ⟨_, ?_, rfl⟩
  split at hfault
  · cases hfault
  · rename_i hnul
    rw [if_neg hnul]
    split at hfault
    · rename_i hlength
      rw [if_pos hlength]
    · rename_i hlength
      rw [if_neg hlength, horigin]
      exact h.follow_tooLong hfault

/-- At a path that names another place there is the same, if anything. -/
theorem AgreesOff.nodeAt? (h : AgreesOff hidden fs fs') (hp : hidden ≠ some (fs.placeOf p)) :
    fs'.nodeAt? p = fs.nodeAt? p := by
  have hp' : hidden ≠ some (fs'.placeOf p) := h.placeOf_eq p ▸ hp
  have htooLong {fs fs' : FileSystem} (h : AgreesOff hidden fs fs') {e : FileError}
      (hfault : fs.nodeAt? p = .error e) : fs'.nodeAt? p = .error e := by
    rw [FileSystem.nodeAt?] at hfault ⊢
    split at hfault
    · cases hfault
    · cases hfault
    · rename_i e' hlocate
      split at hfault
      · rename_i hlong
        cases hfault
        rw [h.locate_tooLong hlocate hlong]
        exact if_pos hlong
      · cases hfault
  have hpresent {fs fs' : FileSystem} (h : AgreesOff hidden fs fs')
      (hp : hidden ≠ some (fs.placeOf p)) {node : Node}
      (hnode : fs.nodeAt? p = .ok (some node)) : fs'.nodeAt? p = .ok (some node) := by
    rw [FileSystem.nodeAt?] at hnode ⊢
    split at hnode
    · rename_i place node' hlocate
      cases hnode
      rw [h.locate hp hlocate]
    · cases hnode
    · split at hnode <;> cases hnode
  cases hnode : fs.nodeAt? p with
  | error e => exact htooLong h hnode
  | ok found =>
    cases found with
    | some node => exact hpresent h hp hnode
    | none =>
      cases hnode' : fs'.nodeAt? p with
      | error e =>
        rw [htooLong h.symm hnode'] at hnode
        cases hnode
      | ok found' =>
        cases found' with
        | some node =>
          rw [hpresent h.symm hp' hnode'] at hnode
          cases hnode
        | none => rfl

end CommandDocs.FileSystem
