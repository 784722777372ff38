import CommandDocs.Proofs.Entries
import CommandDocs.Proofs.File.Contents

/-!
# Reading what was written

A path that leads somewhere does so name by name, and each step is one of three. As long
as the directories on the way are kept it leads to the same place, and writing a file
keeps them all.
-/

namespace CommandDocs.FileSystem

/-- The place of a target. -/
def Target.place : Target → Place
  | .present place _ => place
  | .absent place => place

/-- How names lead from a place to a target. -/
inductive Leads (fs : FileSystem) : Place → List Text → Target → Prop where
  /-- Without names the target is the place itself. -/
  | here {place : Place} {node : Node} (hnode : fs.node? place = some node) :
    Leads fs place [] (.present place node)
  /-- Two dots lead to the directory above. -/
  | up {place : Place} {rest : List Text} {target : Target}
    (hstart : fs.node? place = some .directory) (hrest : Leads fs place.dropLast rest target) :
    Leads fs place (Path.parentName :: rest) target
  /-- The last name may be free. -/
  | free {place : Place} {part : Text} (hstart : fs.node? place = some .directory)
    (hpart : part ≠ Path.parentName) (hlength : byteLength part ≤ nameBound)
    (hnone : fs.node? (place ++ [part]) = none) :
    Leads fs place [part] (.absent (place ++ [part]))
  /-- Any other name leads to what bears it. -/
  | down {place : Place} {part : Text} {rest : List Text} {target : Target} {next : Node}
    (hstart : fs.node? place = some .directory) (hpart : part ≠ Path.parentName)
    (hlength : byteLength part ≤ nameBound) (hnext : fs.node? (place ++ [part]) = some next)
    (hrest : Leads fs (place ++ [part]) rest target) :
    Leads fs place (part :: rest) target

variable {fs fs' : FileSystem} {p : Path} {place start : Place} {node : Node}

/-- Following names from a place where nothing is fails. -/
theorem follow_of_none (h : fs.node? start = none) (parts : List Text) :
    fs.follow start parts = .error .missing := by
  cases parts <;> rw [follow, h]

/-- What is found by following names is led to. -/
theorem leads_of_follow {parts : List Text} {target : Target}
    (h : fs.follow start parts = .ok target) : Leads fs start parts target := by
  induction parts generalizing start with
  | nil =>
    rw [follow] at h
    cases hnode : fs.node? start with
    | none =>
      rw [hnode] at h
      cases h
    | some node =>
      rw [hnode] at h
      cases h
      exact .here hnode
  | cons part rest ih =>
    rw [follow] at h
    cases hstart : fs.node? start with
    | none =>
      rw [hstart] at h
      cases h
    | some old =>
      cases old with
      | file content =>
        rw [hstart] at h
        cases h
      | directory =>
        rw [hstart] at h
        dsimp only at h
        by_cases hpart : part = Path.parentName
        · rw [if_pos hpart] at h
          rw [hpart]
          exact .up hstart (ih h)
        rw [if_neg hpart] at h
        by_cases hlong : nameBound < byteLength part
        · rw [if_pos hlong] at h
          cases h
        rw [if_neg hlong] at h
        cases hnext : fs.node? (start ++ [part]) with
        | none =>
          rw [hnext, follow_of_none hnext] at h
          cases rest with
          | nil =>
            cases h
            exact .free hstart hpart (Nat.not_lt.mp hlong) hnext
          | cons next rest => cases h
        | some next =>
          rw [hnext] at h
          exact .down hstart hpart (Nat.not_lt.mp hlong) hnext (ih h)

/-- What is led to is found by following the names. -/
theorem Leads.follow {parts : List Text} {target : Target} (h : Leads fs start parts target) :
    fs.follow start parts = .ok target := by
  induction h with
  | here hnode => rw [FileSystem.follow, hnode]
  | up hstart hrest ih =>
    rw [FileSystem.follow, hstart]
    exact (if_pos rfl).trans ih
  | free hstart hpart hlength hnone =>
    rw [FileSystem.follow, hstart]
    dsimp only
    rw [if_neg hpart, if_neg (Nat.not_lt.mpr hlength), hnone]
    rfl
  | down hstart hpart hlength hnext hrest ih =>
    rw [FileSystem.follow, hstart]
    dsimp only
    rw [if_neg hpart, if_neg (Nat.not_lt.mpr hlength), hnext]
    exact ih

/-- Where names lead to something, it is there. -/
theorem Leads.present {parts : List Text} (h : Leads fs start parts (.present place node)) :
    fs.node? place = some node := by
  generalize htarget : Target.present place node = target at h
  induction h with
  | here hnode =>
    cases htarget
    exact hnode
  | up hstart hrest ih => exact ih htarget
  | free => cases htarget
  | down hstart hpart hlength hnext hrest ih => exact ih htarget

/-- Where names lead to a free place, it is not the root and nothing is there. -/
theorem Leads.absent {parts : List Text} (h : Leads fs start parts (.absent place)) :
    place ≠ [] ∧ fs.node? place = none := by
  generalize htarget : Target.absent place = target at h
  induction h with
  | here hnode => cases htarget
  | up hstart hrest ih => exact ih htarget
  | free hstart hpart hlength hnone =>
    cases htarget
    exact ⟨by simp, hnone⟩
  | down hstart hpart hlength hnext hrest ih => exact ih htarget

/-- Names lead to the place that they name. -/
theorem Leads.place_eq {parts : List Text} {target : Target} (h : Leads fs start parts target) :
    target.place = Path.climb start parts := by
  induction h with
  | here _ => rfl
  | up _ _ ih =>
    rw [Path.climb, if_pos rfl]
    exact ih
  | free _ hpart _ _ =>
    rw [Path.climb, if_neg hpart]
    rfl
  | down _ hpart _ _ _ ih =>
    rw [Path.climb, if_neg hpart]
    exact ih

/-- With names to follow, they lead on from a directory. -/
theorem Leads.directory {part : Text} {rest : List Text} {target : Target}
    (h : Leads fs start (part :: rest) target) : fs.node? start = some .directory := by
  cases h with
  | up hstart _ => exact hstart
  | free hstart _ _ _ => exact hstart
  | down hstart _ _ _ _ => exact hstart

/-- Names lead to the same place when directories are kept and something is there. -/
theorem Leads.of_keeps {parts : List Text} {target : Target} (h : Leads fs start parts target)
    (hkeeps : ∀ other, fs.node? other = some .directory → fs'.node? other = some .directory)
    (hnode : fs'.node? target.place = some node) :
    Leads fs' start parts (.present target.place node) := by
  induction h with
  | here _ => exact .here hnode
  | up hstart hrest ih => exact .up (hkeeps _ hstart) (ih hnode)
  | free hstart hpart hlength hnone =>
    exact .down (hkeeps _ hstart) hpart hlength hnode (.here hnode)
  | @down place part rest target next hstart hpart hlength hnext hrest ih =>
    -- the next place is the last one, or a directory
    have htaken : ∃ next', fs'.node? (place ++ [part]) = some next' := by
      cases rest with
      | nil =>
        rw [hrest.place_eq] at hnode
        exact ⟨node, hnode⟩
      | cons => exact ⟨.directory, hkeeps _ hrest.directory⟩
    obtain ⟨next', hnext'⟩ := htaken
    exact .down (hkeeps _ hstart) hpart hlength hnext' (ih hnode)

/-- What is put at a place is there, and all other places keep theirs. -/
theorem node?_setNode (hplace : place ≠ []) (other : Place) :
    (fs.setNode place node).node? other = if place = other then some node else fs.node? other := by
  by_cases hroot : other = []
  · rw [node?, if_pos hroot, node?, if_pos hroot, if_neg fun h => hplace (h.trans hroot)]
  · rw [node?, if_neg hroot, node?, if_neg hroot, setNode, Entries.find?_put]

/-- The root is a directory, so a file is not there. -/
theorem ne_root_of_file {content : Bytes} (h : fs.node? place = some (.file content)) :
    place ≠ [] := by
  intro h
  subst h
  cases h

/-- A path can be told to the system: it has no character that cannot, and is not too long. -/
def CanTell (p : Path) : Prop := ¬HasNul p ∧ byteLength p.toText ≤ pathBound

/-- The place that a path names, whether or not it leads there. -/
def placeOf (fs : FileSystem) (p : Path) : Place := Path.climb (fs.origin p) p.parts

/-- A path leads to a target when it can be told and its names lead there. -/
theorem locate_iff {target : Target} :
    fs.locate p = .ok target ↔ CanTell p ∧ Leads fs (fs.origin p) p.parts target := by
  rw [locate, CanTell, HasNul]
  by_cases hnul : p.parts.any (·.contains (CodePoint.scalar '\x00')) = true
  · rw [if_pos hnul]
    constructor
    · intro h
      cases h
    · intro h
      rcases h with ⟨⟨htold, -⟩, -⟩
      exact absurd hnul htold
  rw [if_neg hnul]
  by_cases hlong : pathBound < byteLength p.toText
  · rw [if_pos hlong]
    constructor
    · intro h
      cases h
    · intro h
      rcases h with ⟨⟨-, hshort⟩, -⟩
      omega
  · rw [if_neg hlong]
    constructor
    · intro h
      cases hfollow : fs.follow (fs.origin p) p.parts with
      | error e =>
        rw [hfollow] at h
        cases h
      | ok found =>
        rw [hfollow] at h
        cases h
        exact ⟨⟨hnul, Nat.not_lt.mp hlong⟩, leads_of_follow hfollow⟩
    · intro h
      rcases h with ⟨-, hleads⟩
      rw [hleads.follow]
      rfl

/-- A node that is put where no directory is keeps all directories. -/
theorem keeps_setNode (hplace : place ≠ []) (hfree : fs.node? place ≠ some .directory)
    (other : Place) (hother : fs.node? other = some .directory) :
    (fs.setNode place node).node? other = some .directory := by
  have hne : place ≠ other := by
    intro h
    subst h
    exact hfree hother
  rw [node?_setNode hplace, if_neg hne]
  exact hother

/-- A path leads to the same place when directories are kept and something is there. -/
theorem locate_of_keeps {target : Target} (h : fs.locate p = .ok target)
    (hworking : fs'.workingDirectory = fs.workingDirectory)
    (hkeeps : ∀ other, fs.node? other = some .directory → fs'.node? other = some .directory)
    (hnode : fs'.node? target.place = some node) :
    fs'.locate p = .ok (.present target.place node) := by
  have horigin : fs'.origin p = fs.origin p := by rw [origin, origin, hworking]
  rw [locate_iff] at h ⊢
  rw [horigin]
  exact ⟨h.1, h.2.of_keeps hkeeps hnode⟩

/-- A path leads to the node that was put where it led, if that was no directory. -/
theorem locate_setNode {target : Target} (h : fs.locate p = .ok target)
    (hplace : target.place ≠ []) (hfree : fs.node? target.place ≠ some .directory) (node : Node) :
    (fs.setNode target.place node).locate p = .ok (.present target.place node) := by
  refine locate_of_keeps h rfl (keeps_setNode hplace hfree) ?_
  rw [node?_setNode hplace, if_pos rfl]

/-- A file that is updated is put in its place with its new content; a new file has none
before. -/
theorem updateFile_eq_ok {change : Bytes → Bytes} (h : fs.updateFile p change = .ok fs') :
    ∃ target content, fs.locate p = .ok target ∧ target.place ≠ [] ∧
      fs.node? target.place ≠ some .directory ∧
      fs' = fs.setNode target.place (.file (change content)) := by
  rw [updateFile] at h
  cases hlocate : fs.locate p with
  | error e =>
    rw [hlocate] at h
    cases h
  | ok target =>
    rw [hlocate] at h
    have hleads := (locate_iff.mp hlocate).2
    cases target with
    | absent place =>
      cases h
      refine ⟨_, [], rfl, hleads.absent.1, ?_, rfl⟩
      rw [Target.place, hleads.absent.2]
      simp
    | present place node =>
      cases node with
      | directory => cases h
      | file content =>
        cases h
        refine ⟨_, content, rfl, ne_root_of_file hleads.present, ?_, rfl⟩
        rw [Target.place, hleads.present]
        simp

/-- A file that leads to its content is read. -/
theorem readFile_of_locate {content : Bytes}
    (h : fs.locate p = .ok (.present place (.file content))) : fs.readFile p = .ok content := by
  simp only [readFile, h, bind, Except.bind]

/-- What was written is read. -/
theorem readFile_of_writeFile {content : Bytes} (h : fs.writeFile p content = .ok fs') :
    fs'.readFile p = .ok content := by
  obtain ⟨target, old, hlocate, hplace, hfree, rfl⟩ := updateFile_eq_ok h
  exact readFile_of_locate (locate_setNode hlocate hplace hfree _)

/-- A file that was written once is written again. -/
theorem writeFile_of_writeFile {content : Bytes} (h : fs.writeFile p content = .ok fs')
    (more : Bytes) : ∃ fs'', fs'.writeFile p more = .ok fs'' := by
  obtain ⟨target, old, hlocate, hplace, hfree, rfl⟩ := updateFile_eq_ok h
  refine ⟨(fs.setNode target.place (.file content)).setNode target.place (.file more), ?_⟩
  simp only [writeFile, updateFile, locate_setNode hlocate hplace hfree, bind, Except.bind]

/-- A file can be opened for writing at the path once the directories above it are made. -/
def CanOpen (fs : FileSystem) (p : Path) : Prop :=
  (fs.ensureDirectories p.parent).1 = .ok () ∧
    ∃ opened, (fs.ensureDirectories p.parent).2.writeFile p [] = .ok opened

end CommandDocs.FileSystem
