import CommandDocs.Page.Extraction
import CommandDocs.Proofs.Entries
import CommandDocs.Proofs.File.Names

/-!
# Pages of a directory

The page of a command is the file of the directory that bears its name and the suffix. A
table of all pages that are listed and can be read, each under its stem, holds under the
name of a command the page of that command and nothing else.
-/

namespace CommandDocs.FileSystem

variable {fs fs' : FileSystem} {directory p : Path} {suffix name : Text} {found : List Path}
  {page : Page.Extraction}

/-- What the page at a path says, when there is a file that can be decoded. -/
def pageAt? (fs : FileSystem) (p : Path) : Option Page.Extraction :=
  (fs.readText p).toOption.map Page.extract

/-- What the page of a command says: the file of the directory that bears the name of the
command and the suffix. A command without a name has none. -/
def pageOf? (fs : FileSystem) (directory : Path) (suffix name : Text) : Option Page.Extraction :=
  if name = [] then none else fs.pageAt? (directory.child (name ++ suffix))

/-- What the page says that is listed under a name: an entry of the directory whose name is
split into the name and the suffix. -/
def pageNamed? (fs : FileSystem) (directory : Path) (suffix name : Text) :
    Option Page.Extraction :=
  if Path.splitName (name ++ suffix) = (name, suffix) ∧
      name ++ suffix ∈ fs.childNames (fs.placeOf directory) then
    fs.pageAt? (directory.child (name ++ suffix))
  else none

/-- The pages at paths that can be read, each under its stem. -/
def pagesAt (fs : FileSystem) (found : List Path) : List (Text × Page.Extraction) :=
  found.filterMap fun p => (fs.pageAt? p).map fun page => (p.stem, page)

/-- A page says something when its text is read. -/
theorem pageAt?_eq_some :
    fs.pageAt? p = some page ↔ ∃ text, fs.readText p = .ok text ∧ Page.extract text = page := by
  rw [pageAt?]
  cases fs.readText p with
  | error fault => exact iff_of_false (fun h => nomatch h) (fun ⟨_, h, _⟩ => nomatch h)
  | ok text =>
    constructor
    · intro h
      cases h
      exact ⟨text, rfl, rfl⟩
    · intro h
      rcases h with ⟨text, ⟨⟩, rfl⟩
      rfl

/-- A page that cannot be read says nothing. -/
theorem pageAt?_of_readPage_error {failure : Failure} (h : fs.readPage p = .error failure) :
    fs.pageAt? p = none := by
  rw [readPage] at h
  rw [pageAt?]
  cases htext : fs.readText p with
  | error fault => rfl
  | ok text =>
    rw [htext] at h
    cases h

/-- Pages come in the order of their paths. -/
theorem pagesAt_cons (p : Path) (rest : List Path) :
    fs.pagesAt (p :: rest) =
      ((fs.pageAt? p).map fun page => (p.stem, page)).toList ++ fs.pagesAt rest := by
  rw [pagesAt, pagesAt, List.filterMap_cons]
  cases fs.pageAt? p <;> rfl

/-- A page that another place bears says the same. -/
theorem AgreesOff.pageAt? {hidden : Option Place} (h : AgreesOff hidden fs fs')
    (hp : hidden ≠ some (fs.placeOf p)) : fs'.pageAt? p = fs.pageAt? p := by
  refine Option.ext fun page => ?_
  rw [pageAt?_eq_some, pageAt?_eq_some]
  constructor
  · intro h
    rcases h with ⟨text, htext, hpage⟩
    exact ⟨text, h.symm.readText (h.placeOf_eq p ▸ hp) htext, hpage⟩
  · intro h
    rcases h with ⟨text, htext, hpage⟩
    exact ⟨text, h.readText hp htext, hpage⟩

/-- The pages that are listed are the files of the directory that bear the suffix. -/
theorem mem_listPages (h : fs.listPages directory suffix = .ok found) :
    p ∈ found ↔ ∃ name ∈ fs.childNames (fs.placeOf directory), p = directory.child name ∧
      (Path.splitName name).2 = suffix ∧ fs.isFile p = .ok true := by
  simp only [listPages, bind_eq_ok, mapError_eq_ok] at h
  obtain ⟨entries, hentries, pages, hpages, h⟩ := h
  cases h
  rw [Text.sortOn, List.mem_mergeSort, mem_filesAmong hpages,
    (listDirectory_eq_ok.mp hentries).2, List.mem_filter, List.mem_map]
  constructor
  · intro h
    rcases h with ⟨⟨⟨name, hname, rfl⟩, hsuffix⟩, hfile⟩
    rw [Path.suffix, Path.name_child] at hsuffix
    exact ⟨name, hname, rfl, beq_iff_eq.mp hsuffix, hfile⟩
  · intro h
    rcases h with ⟨name, hname, rfl, hsuffix, hfile⟩
    refine ⟨⟨⟨name, hname, rfl⟩, ?_⟩, hfile⟩
    rw [Path.suffix, Path.name_child]
    exact beq_iff_eq.mpr hsuffix

/-- A page that is listed bears its stem and the suffix. -/
theorem eq_child_of_mem_listPages (h : fs.listPages directory suffix = .ok found)
    (hp : p ∈ found) :
    p = directory.child (p.stem ++ suffix) ∧ Path.splitName (p.stem ++ suffix) = (p.stem, suffix) ∧
      p.stem ++ suffix ∈ fs.childNames (fs.placeOf directory) := by
  obtain ⟨name, hname, rfl, rfl, -⟩ := (mem_listPages h).mp hp
  rw [Path.stem, Path.name_child, Path.append_splitName]
  exact ⟨rfl, rfl, hname⟩

/-- What is listed under a name is said by the page that has the name for its stem. -/
theorem pageNamed?_eq_some (h : fs.listPages directory suffix = .ok found) :
    fs.pageNamed? directory suffix name = some page ↔
      ∃ p ∈ found, p.stem = name ∧ fs.pageAt? p = some page := by
  rw [pageNamed?]
  constructor
  · intro hpage
    split at hpage
    · rename_i hlisted
      obtain ⟨text, htext, -⟩ := pageAt?_eq_some.mp hpage
      refine ⟨_, (mem_listPages h).mpr ⟨_, hlisted.2, rfl, congrArg Prod.snd hlisted.1,
        isFile_eq_true.mpr (readFile_of_readText htext)⟩, ?_, hpage⟩
      rw [Path.stem, Path.name_child, hlisted.1]
    · cases hpage
  · intro hpage
    obtain ⟨p, hp, rfl, hpage⟩ := hpage
    obtain ⟨heq, hsplit⟩ := eq_child_of_mem_listPages h hp
    rw [if_pos hsplit, ← heq]
    exact hpage

/-- The table of all pages that are listed holds under each name the page of that name. -/
theorem find?_pagesAt (h : fs.listPages directory suffix = .ok found) (name : Text) :
    Entries.find? name (Entries.ofPairs (fs.pagesAt found)) =
      fs.pageNamed? directory suffix name := by
  refine Entries.find?_ofPairs_eq ?_ ?_ name
  · intro pair hpair
    obtain ⟨p, hp, hmap⟩ := List.mem_filterMap.mp hpair
    obtain ⟨page, hpage, rfl⟩ := Option.map_eq_some_iff.mp hmap
    exact (pageNamed?_eq_some h).mpr ⟨p, hp, rfl, hpage⟩
  · intro name page hpage
    obtain ⟨p, hp, hstem, hsaid⟩ := (pageNamed?_eq_some h).mp hpage
    refine List.mem_filterMap.mpr ⟨p, hp, ?_⟩
    rw [hsaid, hstem]
    rfl

/-- Under a suffix that names are listed by, the page of a command is listed under its name. -/
theorem pageNamed?_eq_pageOf? (hsuffix : Path.IsSuffix suffix) (name : Text) :
    fs.pageNamed? directory suffix name = fs.pageOf? directory suffix name := by
  rw [pageNamed?, pageOf?]
  by_cases hname : name = []
  · -- no file is split into an empty stem and a suffix
    have hsplit : Path.splitName (name ++ suffix) ≠ (name, suffix) := by
      intro h
      have hsecond : (Path.splitName (name ++ suffix)).2 ≠ [] := by
        rw [h]
        exact hsuffix.ne_nil
      have hfirst := (Path.eq_append_of_splitName hsecond).2
      rw [h] at hfirst
      exact hfirst hname
    rw [if_neg fun h => hsplit h.1, if_pos hname]
  · rw [if_neg hname]
    by_cases hmem : name ++ suffix ∈ fs.childNames (fs.placeOf directory)
    · rw [if_pos ⟨Path.splitName_append hname hsuffix, hmem⟩]
    · rw [if_neg fun h => hmem h.2]
      cases hpage : fs.pageAt? (directory.child (name ++ suffix)) with
      | none => rfl
      | some page =>
        obtain ⟨text, htext, -⟩ := pageAt?_eq_some.mp hpage
        obtain ⟨content, hcontent⟩ := readFile_of_readText htext
        exact absurd
          (mem_childNames_of_readFile (Path.append_ne_parentName hname hsuffix) hcontent) hmem

/-- Pages are listed in a directory none of whose entries with the suffix is refused. -/
theorem exists_listPages : (∃ found, fs.listPages directory suffix = .ok found) ↔
    (∃ place, fs.locate directory = .ok (.present place .directory)) ∧
      ∀ name ∈ fs.childNames (fs.placeOf directory), (Path.splitName name).2 = suffix →
        ∃ answer, fs.isFile (directory.child name) = .ok answer := by
  have hentries : ∀ entries, fs.listDirectory directory = .ok entries →
      ((∃ files, fs.filesAmong (entries.filter (·.suffix == suffix)) = .ok files) ↔
        ∀ name ∈ fs.childNames (fs.placeOf directory), (Path.splitName name).2 = suffix →
          ∃ answer, fs.isFile (directory.child name) = .ok answer) := by
    intro entries hentries
    rw [exists_filesAmong, (listDirectory_eq_ok.mp hentries).2]
    simp only [List.mem_filter, List.mem_map, Path.suffix, beq_iff_eq, and_imp,
      forall_exists_index, forall_apply_eq_imp_iff₂, Path.name_child]
  simp only [listPages, bind_eq_ok, mapError_eq_ok]
  constructor
  · intro h
    rcases h with ⟨found, entries, hlist, files, hfiles, -⟩
    exact ⟨(listDirectory_eq_ok.mp hlist).1, (hentries entries hlist).mp ⟨files, hfiles⟩⟩
  · intro h
    rcases h with ⟨hdirectory, hanswers⟩
    have hlist := listDirectory_eq_ok.mpr ⟨hdirectory, rfl⟩
    obtain ⟨files, hfiles⟩ := (hentries _ hlist).mpr hanswers
    exact ⟨_, _, hlist, files, hfiles, rfl⟩

/-! ### Pages apart from one place -/

variable {hidden : Option Place}

/-- An entry at another place is there in both. -/
theorem AgreesOff.mem_childNames (h : AgreesOff hidden fs fs') {place : Place}
    (hentry : hidden ≠ some (place ++ [name])) :
    name ∈ fs'.childNames place ↔ name ∈ fs.childNames place := by
  rw [FileSystem.mem_childNames, FileSystem.mem_childNames, h.node_eq hentry]

/-- A page at another place is listed alike. -/
theorem AgreesOff.pageNamed? (h : AgreesOff hidden fs fs')
    (hpage : hidden ≠ some (fs.placeOf (directory.child (name ++ suffix))))
    (hentry : hidden ≠ some (fs.placeOf directory ++ [name ++ suffix])) :
    fs'.pageNamed? directory suffix name = fs.pageNamed? directory suffix name := by
  rw [FileSystem.pageNamed?, FileSystem.pageNamed?, h.placeOf_eq, h.pageAt? hpage]
  simp only [h.mem_childNames hentry]

/-- A directory in which pages are listed is one in both, as long as they differ at most in
what is not a page. -/
theorem AgreesOff.exists_listPages (h : AgreesOff hidden fs fs')
    (hpages : ∀ name, hidden ≠ some (fs.placeOf (directory.child (name ++ suffix))))
    (hentries : ∀ name, hidden ≠ some (fs.placeOf directory ++ [name ++ suffix]))
    (hlist : ∃ found, fs.listPages directory suffix = .ok found) :
    ∃ found, fs'.listPages directory suffix = .ok found := by
  rw [FileSystem.exists_listPages] at hlist ⊢
  obtain ⟨⟨place, hlocate⟩, hanswers⟩ := hlist
  refine ⟨⟨place, h.locate_directory hlocate⟩, fun name hname hsuffix => ?_⟩
  have hsplit := Path.append_splitName name
  rw [hsuffix] at hsplit
  rw [h.placeOf_eq, h.mem_childNames (hsplit ▸ hentries _)] at hname
  rw [isFile, h.nodeAt? (hsplit ▸ hpages _)]
  exact hanswers name hname hsuffix

end CommandDocs.FileSystem
