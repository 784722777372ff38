import CommandDocs.Proofs.File.Growth
import CommandDocs.Proofs.File.Names

/-!
# Paths that are too long

Whether the path to an entry of a directory is too long is told by the path alone, as long as the
directory is there. A path under which something is made is not too long, so that directories and
files that are made bring no such path along.
-/

namespace CommandDocs.FileSystem

variable {fs fs' made : FileSystem} {p directory : Path} {place : Place} {name : Text}

/-- Names of which none is too long, and the path of them is not either. -/
structure FitsBounds (place : Place) : Prop where
  /-- The path can be told. -/
  path : byteLength (⟨.slash, place⟩ : Path).toText ≤ pathBound
  /-- Each name can be told. -/
  names : ∀ name ∈ place, byteLength name ≤ nameBound

/-- Names that lead somewhere are not too long. -/
theorem Leads.byteLength_le {start : Place} {parts : List Text} {target : Target}
    (h : Leads fs start parts target) (hparts : Path.parentName ∉ parts) :
    ∀ name ∈ parts, byteLength name ≤ nameBound := by
  induction h with
  | here _ => exact List.forall_mem_nil _
  | up _ _ _ => exact absurd List.mem_cons_self hparts
  | free _ _ hlength _ => exact List.forall_mem_singleton.mpr hlength
  | down _ _ hlength _ _ ih =>
    rw [List.mem_cons, not_or] at hparts
    exact List.forall_mem_cons.mpr ⟨hlength, ih hparts.2⟩

/-- A resolved path that leads somewhere is not too long. -/
theorem fitsBounds_of_locate (hp : p.IsResolved) {target : Target}
    (h : fs.locate p = .ok target) : FitsBounds p.parts := by
  obtain ⟨⟨-, hlength⟩, hleads⟩ := locate_iff.mp h
  obtain ⟨root, parts⟩ := p
  obtain rfl : root = .slash := hp.root
  exact ⟨hlength, hleads.byteLength_le hp.parts⟩

/-! ### What is made -/

/-- Whatever is there was there before, or is not too long. -/
def NewFits (fs made : FileSystem) : Prop :=
  ∀ place node, made.node? place = some node → fs.node? place ≠ none ∨ FitsBounds place

/-- Nothing new is there. -/
theorem NewFits.refl (fs : FileSystem) : NewFits fs fs :=
  fun _ _ hnode => Or.inl (Option.ne_none_iff_exists'.mpr ⟨_, hnode⟩)

/-- What is put at the place of a path was told. -/
theorem NewFits.setNode (h : NewFits fs made) (hp : p.IsResolved) {target : Target}
    (hlocate : made.locate p = .ok target) (hroot : target.place ≠ []) (node : Node) :
    NewFits fs (made.setNode target.place node) := by
  intro place other hother
  rw [node?_setNode hroot] at hother
  split at hother
  · rename_i hplace
    rw [← hplace, place_of_locate hlocate, placeOf_of_isResolved hp]
    exact Or.inr (fitsBounds_of_locate hp hlocate)
  · exact h place other hother

/-- Directories that are made on the way of a path are not too long. -/
theorem newFits_ensureDirectories (hp : p.IsResolved) :
    NewFits fs (fs.ensureDirectories p).2 := by
  refine ensureDirectories_preserves (P := NewFits fs) p ?_ (.refl fs)
  intro made made' q hroot hparts hmade hensure
  have hq : q.IsResolved := ⟨hroot.trans hp.root, fun hmem => hp.parts (hparts.subset hmem)⟩
  rw [ensureDirectory] at hensure
  cases hmake : made.makeDirectory q with
  | ok last =>
    rw [hmake] at hensure
    cases hensure
    obtain ⟨place, hlocate, rfl⟩ := makeDirectory_eq_ok hmake
    exact hmade.setNode hq hlocate (locate_iff.mp hlocate).2.absent.1 .directory
  | error e =>
    rw [hmake] at hensure
    dsimp only at hensure
    split at hensure
    · cases hensure
      exact hmade
    · cases hensure
    · cases hensure

/-- Nor is a file that is updated. -/
theorem NewFits.updateFile (h : NewFits fs made) (hp : p.IsResolved) {change : Bytes → Bytes}
    (hupdate : made.updateFile p change = .ok fs') : NewFits fs fs' := by
  obtain ⟨target, content, hlocate, hroot, -, rfl⟩ := updateFile_eq_ok hupdate
  exact h.setNode hp hlocate hroot _

/-! ### Entries of a directory -/

/-- Behind names that lead to a directory further names are followed from there. -/
theorem Leads.follow_append {start : Place} {parts : List Text} {target : Target}
    (h : Leads fs start parts target) (htarget : target = .present place .directory)
    (rest : List Text) : fs.follow start (parts ++ rest) = fs.follow place rest := by
  induction h with
  | here _ =>
    cases htarget
    rfl
  | up hstart _ ih =>
    rw [List.cons_append, FileSystem.follow, hstart]
    exact (if_pos rfl).trans (ih htarget)
  | free _ _ _ _ => cases htarget
  | down hstart hpart hlength hnext _ ih =>
    rw [List.cons_append, FileSystem.follow, hstart]
    dsimp only
    rw [if_neg hpart, if_neg (Nat.not_lt.mpr hlength), hnext]
    exact ih htarget

/-- A name in a directory is followed unless it is too long. -/
theorem follow_name_eq_error (hdirectory : fs.node? place = some .directory)
    (hname : name ≠ Path.parentName) :
    fs.follow place [name] = .error .nameTooLong ↔ nameBound < byteLength name := by
  rw [follow, hdirectory]
  dsimp only
  rw [if_neg hname]
  by_cases hlong : nameBound < byteLength name
  · rw [if_pos hlong]
    exact iff_of_true rfl hlong
  · rw [if_neg hlong]
    refine iff_of_false (fun h => ?_) hlong
    cases hnode : fs.node? (place ++ [name]) with
    | none =>
      rw [hnode] at h
      cases h
    | some node =>
      rw [hnode, follow, hnode] at h
      cases h

/-- The path to an entry of a directory is too long when the whole path or the name is. -/
theorem isTooLong_child_iff (hdirectory : fs.locate directory = .ok (.present place .directory))
    (hname : name ≠ Path.parentName) : fs.IsTooLong (directory.child name) ↔
      ¬HasNul (directory.child name) ∧ (pathBound < byteLength (directory.child name).toText ∨
        nameBound < byteLength name) := by
  have hleads := (locate_iff.mp hdirectory).2
  have hfollow : fs.follow (fs.origin (directory.child name)) (directory.child name).parts =
      fs.follow place [name] := hleads.follow_append rfl [name]
  have hshort := follow_name_eq_error hleads.present hname
  rw [IsTooLong, locate, mapError_eq_error, HasNul, ← hshort, ← hfollow]
  by_cases hnul : (directory.child name).parts.any (·.contains (CodePoint.scalar '\x00')) = true
  · rw [if_pos hnul]
    refine iff_of_false (fun h => ?_) (fun h => h.1 hnul)
    obtain ⟨fault, hfault, hlong⟩ := h
    cases hfault
    cases hlong
  · rw [if_neg hnul]
    by_cases hlong : pathBound < byteLength (directory.child name).toText
    · rw [if_pos hlong]
      exact iff_of_true ⟨_, rfl, rfl⟩ ⟨hnul, Or.inl hlong⟩
    · rw [if_neg hlong]
      constructor
      · intro h
        obtain ⟨fault, hfault, heq⟩ := h
        cases heq
        exact ⟨hnul, Or.inr hfault⟩
      · intro h
        exact ⟨_, h.2.resolve_left hlong, rfl⟩

/-- An entry with a path that is too long was there before other things were made, and its path was
too long then. -/
theorem NewFits.isTooLong_child (h : NewFits fs made) (hresolved : directory.IsResolved)
    (hbefore : fs.locate directory = .ok (.present place .directory)) {place' : Place}
    (hafter : made.locate directory = .ok (.present place' .directory))
    (hname : name ≠ Path.parentName) (hentry : name ∈ made.childNames (made.placeOf directory))
    (hlong : made.IsTooLong (directory.child name)) :
    name ∈ fs.childNames (fs.placeOf directory) ∧ fs.IsTooLong (directory.child name) := by
  rw [isTooLong_child_iff hafter hname] at hlong
  rw [isTooLong_child_iff hbefore hname]
  refine ⟨?_, hlong⟩
  obtain ⟨node, hnode⟩ := mem_childNames.mp hentry
  rw [placeOf_of_isResolved hresolved] at hnode ⊢
  rcases h _ _ hnode with hold | hfits
  · exact mem_childNames.mpr (Option.ne_none_iff_exists'.mp hold)
  · -- the path of what is new fits
    obtain ⟨root, parts⟩ := directory
    obtain rfl : root = .slash := hresolved.root
    rcases hlong.2 with hpath | hlast
    · exact absurd hfits.path (Nat.not_le.mpr hpath)
    · exact absurd (hfits.names name (by simp)) (Nat.not_le.mpr hlast)

end CommandDocs.FileSystem
