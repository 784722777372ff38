import CommandDocs.CommandLine.Program
import CommandDocs.Proofs.Corpus.Scanning

/-!
# Suffixes that select pages

The command line takes any suffix that is more than a dot. Names are split at their last dot,
though, so that only a suffix without a further dot is ever split off a name. With such a suffix
every page of the directory is listed, found under the name of its command and merged with the
entry of that name. With any other suffix no file is a page, whatever it is called, and every
entry is merged as if it had none.
-/

namespace CommandDocs

namespace Program

variable {value : OptionValue} {suffix : Text}

/-- A suffix that is taken is a dot and at least one more character. -/
theorem exists_of_dotted (h : dotted value = .ok suffix) :
    ∃ more, suffix = .scalar '.' :: more ∧ more ≠ [] := by
  cases value with
  | nothing => cases h
  | text given =>
    have hbegins : ∃ more, (if Text.startsWith given "." then given else "." ++ given) =
        .scalar '.' :: more := by
      split
      · rename_i hstarts
        obtain ⟨more, hmore⟩ := List.isPrefixOf_iff_prefix.mp hstarts
        exact ⟨more, hmore.symm⟩
      · exact ⟨given, rfl⟩
    obtain ⟨more, hmore⟩ := hbegins
    rw [dotted, hmore] at h
    split at h
    · cases h
    · rename_i hdot
      cases h
      refine ⟨more, rfl, fun hempty => hdot ?_⟩
      rw [hempty]
      rfl

/-- A suffix that is taken is one that names are listed by when it has no further dot. -/
theorem isSuffix_of_dotted (h : dotted value = .ok suffix)
    (hdot : CodePoint.scalar '.' ∉ suffix.tail) : Path.IsSuffix suffix := by
  obtain ⟨more, rfl, hne⟩ := exists_of_dotted h
  exact ⟨more, rfl, hne, hdot⟩

end Program

namespace FileSystem

variable {fs : FileSystem} {directory : Path} {suffix name : Text}

/-- No name is split before a suffix with a further dot. -/
theorem splitName_ne_of_dot (hdot : CodePoint.scalar '.' ∈ suffix.tail) :
    (Path.splitName name).2 ≠ suffix := by
  rintro rfl
  have hne : (Path.splitName name).2 ≠ [] := by
    intro hempty
    rw [hempty] at hdot
    cases hdot
  obtain ⟨more, hmore, -, hnone⟩ := Path.isSuffix_of_splitName hne
  rw [hmore] at hdot
  exact hnone hdot

/-- With such a suffix no page is listed in any directory. -/
theorem listPages_of_dot (hdot : CodePoint.scalar '.' ∈ suffix.tail)
    (hdirectory : ∃ place, fs.locate directory = .ok (.present place .directory)) :
    fs.listPages directory suffix = .ok [] := by
  have hnone : fs.candidates directory suffix = [] := by
    rw [candidates, List.filter_eq_nil_iff]
    intro p _ hsuffix
    exact splitName_ne_of_dot hdot (beq_iff_eq.mp hsuffix)
  refine listPages_eq_ok.mpr ⟨hdirectory, [], by rw [hnone]; rfl, ?_⟩
  rw [Text.sortOn, List.mergeSort_nil]

/-- Pages are listed in a directory unless the path to one of them is too long. -/
theorem exists_listPages_iff
    (hdirectory : ∃ place, fs.locate directory = .ok (.present place .directory)) :
    (∃ found, fs.listPages directory suffix = .ok found) ↔
      ∀ other ∈ fs.childNames (fs.placeOf directory), (Path.splitName other).2 = suffix →
        ¬fs.IsTooLong (directory.child other) := by
  rw [exists_listPages, and_iff_right hdirectory]
  refine forall_congr' fun other => forall_congr' fun _ => forall_congr' fun _ => ?_
  rw [isFile]
  cases hnode : fs.nodeAt? (directory.child other) with
  | ok found =>
    refine iff_of_true ⟨_, rfl⟩ fun hlong => ?_
    rw [nodeAt?_eq_error.mpr ⟨rfl, hlong⟩] at hnode
    cases hnode
  | error e =>
    refine iff_of_false (fun hanswer => ?_) (not_not_intro (nodeAt?_eq_error.mp hnode).2)
    obtain ⟨found, hfound⟩ := hanswer
    cases hfound

/-- A file of the directory with the name of a command and the suffix is among the pages that are
listed. -/
theorem mem_listPages_of_isSuffix {found : List Path} {content : Bytes} (hname : name ≠ [])
    (hsuffix : Path.IsSuffix suffix)
    (hread : fs.readFile (directory.child (name ++ suffix)) = .ok content)
    (hlist : fs.listPages directory suffix = .ok found) :
    directory.child (name ++ suffix) ∈ found := by
  refine (mem_listPages hlist).mpr ⟨name ++ suffix, ?_, rfl, ?_, isFile_eq_true.mpr ⟨_, hread⟩⟩
  · exact mem_childNames_of_readFile (Path.append_ne_parentName hname hsuffix) hread
  · rw [Path.splitName_append hname hsuffix]

/-- A file of a directory shows that the directory is there. -/
theorem exists_locate_of_readFile {content : Bytes}
    (hread : fs.readFile (directory.child name) = .ok content) :
    ∃ place, fs.locate directory = .ok (.present place .directory) := by
  obtain ⟨place, hlocate⟩ := readFile_eq_ok.mp hread
  have hparts : (directory.child name).parts ≠ [] := List.concat_ne_nil name directory.parts
  have hparent : (directory.child name).parent = directory := by
    rw [Path.parent, Path.child]
    dsimp only
    rw [List.dropLast_concat]
  rw [← hparent]
  exact locate_parent hlocate hparts

end FileSystem

namespace Generate

open FileSystem RunState

variable {s s' : RunState} {directory : Path} {suffix name text : Text}

/-- A page is found under the name of its command, with what it says unless it is the log. -/
theorem find?_of_run_scan {answer : Scan} (hname : name ≠ []) (hsuffix : Path.IsSuffix suffix)
    (hdistinct : s.files.nodes.keys.Nodup)
    (hread : s.files.readText (directory.child (name ++ suffix)) = .ok text)
    (hscan : (scan directory suffix).run.run s = (.ok answer, s')) :
    name ∈ answer.pages.keys ∧
      (s.logPlace? ≠ some (s.files.placeOf (directory.child (name ++ suffix))) →
        answer.pages.find? name = some (Page.extract text)) := by
  obtain ⟨found, pairs, skipped, s₁, hlist, hpages, rfl, -⟩ := run_scan_eq_ok.mp hscan
  obtain ⟨content, hcontent⟩ := readFile_of_readText hread
  have hmem := mem_listPages_of_isSuffix hname hsuffix hcontent hlist
  have hstem : (directory.child (name ++ suffix)).stem = name := by
    rw [Path.stem, Path.name_child, Path.splitName_append hname hsuffix]
  have hsaid : s.files.pageAt? (directory.child (name ++ suffix)) = some (Page.extract text) :=
    pageAt?_eq_some.mpr ⟨text, hread, rfl⟩
  have hreadable : s.files.isReadable (directory.child (name ++ suffix)) = true := by
    rw [isReadable, hsaid]
    rfl
  have hstems := nodup_stems_of_listPages hdistinct hlist
  obtain ⟨hkeys, -⟩ := names_of_run_readPages hpages fun p hp =>
    exists_readFile_of_mem_listPages hlist hp
  rw [Entries.ofPairs_of_nodup (nodup_keys_of_stems hkeys hstems)]
  constructor
  · rw [hkeys]
    exact List.mem_map.mpr ⟨_, List.mem_filter.mpr ⟨hmem, hreadable⟩, hstem⟩
  · intro hlog
    have hfind := find?_stem_of_run_readPages hpages hkeys hstems hmem hlog
    rw [hstem, hsaid] at hfind
    exact hfind

/-- Entries of a merged corpus, by their positions. -/
theorem getElem?_mergeCorpus {isPlaceholder : PlaceholderTest} {baselines : List BaselineRecord}
    {pages : Entries Text Page.Extraction} {i : ℕ} {b : BaselineRecord}
    (h : baselines[i]? = some b) :
    (mergeCorpus isPlaceholder baselines pages).records[i]? =
      some (b.merge isPlaceholder (pages.find? b.name)) := by
  rw [mergeCorpus, List.getElem?_map, h, Option.map_some]

/-- What a suffix that the command line takes selects, where the directory holds a page under the
name of a command and the suffix. Without a further dot in the suffix, a scan ends well unless the
path to some page is too long; the page is then listed and is found under the name, and the entry
of that name is merged with what the page says. With a further dot, no page is listed, and the
entry is merged as one that has no page. -/
theorem selection_of_dotted {value : OptionValue} (hdotted : Program.dotted value = .ok suffix)
    (hname : name ≠ []) (hdistinct : s.files.nodes.keys.Nodup)
    (hread : s.files.readText (directory.child (name ++ suffix)) = .ok text) :
    (CodePoint.scalar '.' ∉ suffix.tail →
      ((∃ answer s', (scan directory suffix).run.run s = (.ok answer, s')) ↔
        ∀ other ∈ s.files.childNames (s.files.placeOf directory),
          (Path.splitName other).2 = suffix → ¬s.files.IsTooLong (directory.child other)) ∧
      (∀ found, s.files.listPages directory suffix = .ok found →
        directory.child (name ++ suffix) ∈ found) ∧
      ∀ answer s', (scan directory suffix).run.run s = (.ok answer, s') →
        name ∈ answer.pages.keys ∧
        (s.logPlace? ≠ some (s.files.placeOf (directory.child (name ++ suffix))) →
          answer.pages.find? name = some (Page.extract text) ∧
          ∀ isPlaceholder (baselines : List BaselineRecord) (i : ℕ) b, baselines[i]? = some b →
            b.name = name →
              (mergeCorpus isPlaceholder baselines answer.pages).records[i]? =
                some (b.withPage isPlaceholder (Page.extract text)))) ∧
    (CodePoint.scalar '.' ∈ suffix.tail →
      s.files.listPages directory suffix = .ok [] ∧
      ∃ s', (scan directory suffix).run.run s = (.ok ⟨[], []⟩, s') ∧
        ∀ isPlaceholder (baselines : List BaselineRecord) (i : ℕ) b, baselines[i]? = some b →
          (mergeCorpus isPlaceholder baselines []).records[i]? = some b.withSynthesizedPage) := by
  obtain ⟨content, hcontent⟩ := readFile_of_readText hread
  have hdirectory := exists_locate_of_readFile hcontent
  refine ⟨fun hdot => ?_, fun hdot => ?_⟩
  · have hsuffix := Program.isSuffix_of_dotted hdotted hdot
    refine ⟨?_, fun found => mem_listPages_of_isSuffix hname hsuffix hcontent, ?_⟩
    · rw [← exists_listPages_iff hdirectory]
      refine ⟨fun hends => ?_, exists_run_scan⟩
      obtain ⟨answer, s', hscan⟩ := hends
      obtain ⟨found, -, -, -, hlist, -⟩ := run_scan_eq_ok.mp hscan
      exact ⟨found, hlist⟩
    · intro answer s' hscan
      obtain ⟨hkey, hfind⟩ := find?_of_run_scan hname hsuffix hdistinct hread hscan
      refine ⟨hkey, fun hlog => ⟨hfind hlog, fun isPlaceholder baselines i b hb hsame => ?_⟩⟩
      rw [getElem?_mergeCorpus hb, hsame, hfind hlog]
      rfl
  · have hlist := listPages_of_dot hdot hdirectory
    refine ⟨hlist, _, run_scan_eq_ok.mpr ⟨[], [], [], s, hlist, rfl, rfl, rfl⟩, ?_⟩
    intro isPlaceholder baselines i b hb
    exact getElem?_mergeCorpus hb

/-- With the usual suffix, given without its dot, the page of the sample is found. -/
theorem selection_sampleState :
    Program.dotted (.text "md") = .ok defaultSuffix ∧ ("abs" : Text) ≠ [] ∧
      sampleState.files.nodes.keys.Nodup ∧
      sampleState.files.readText (samplePaths.pages.child ("abs" ++ defaultSuffix)) =
        .ok "# Magnitude" ∧
      ∃ answer s', (scan samplePaths.pages defaultSuffix).run.run sampleState = (.ok answer, s') ∧
        answer.pages.find? ("abs" : Text) = some (Page.extract "# Magnitude") := by
  have hdotted : Program.dotted (.text "md") = .ok defaultSuffix := rfl
  have hname : ("abs" : Text) ≠ [] := by decide
  have hdistinct : sampleState.files.nodes.keys.Nodup := by decide
  have hread : sampleState.files.readText (samplePaths.pages.child ("abs" ++ defaultSuffix)) =
      .ok "# Magnitude" := rfl
  obtain ⟨hends, -, hfound⟩ :=
    (selection_of_dotted hdotted hname hdistinct hread).1 (by decide)
  have hnames : sampleState.files.childNames (sampleState.files.placeOf samplePaths.pages) =
      [("abs.md" : Text)] := rfl
  obtain ⟨answer, s', hscan⟩ := hends.mpr fun other hother _ hlong => by
    rw [hnames, List.mem_singleton] at hother
    rw [hother] at hlong
    cases hlong
  have hlog : sampleState.logPlace? ≠
      some (sampleState.files.placeOf (samplePaths.pages.child ("abs" ++ defaultSuffix))) := nofun
  exact ⟨hdotted, hname, hdistinct, hread, answer, s', hscan, ((hfound answer s' hscan).2 hlog).1⟩

/-- A directory whose one page bears the language of the page in its suffix. -/
def languageFiles : FileSystem where
  nodes := [
    (["docs"], .directory),
    (["docs", "abs.en.md"], .file ((Text.ofString "# Magnitude").flatMap Utf8.bytesOf))]
  workingDirectory := []

/-- The state before a scan of this directory, without a log. -/
def languageState : RunState := { files := languageFiles, clock := .epoch }

/-- The suffix of that page is taken, and the page can be read, but it is neither listed nor found,
and the entry of its name is merged as if there were none. -/
theorem no_page_of_languageSuffix :
    Program.dotted (.text ".en.md") = .ok ".en.md" ∧ CodePoint.scalar '/' ∉ (".en.md" : Text) ∧
      languageFiles.readText (samplePaths.pages.child ("abs" ++ ".en.md")) = .ok "# Magnitude" ∧
      languageFiles.listPages samplePaths.pages ".en.md" = .ok [] ∧
      ∃ answer s', (scan samplePaths.pages ".en.md").run.run languageState = (.ok answer, s') ∧
        answer.pages.keys = [] ∧
        (mergeCorpus (placeholderTest defaultPlaceholder) [sampleEntry] answer.pages).records =
          [sampleEntry.withSynthesizedPage] := by
  have hlist : languageState.files.listPages samplePaths.pages ".en.md" = .ok [] :=
    listPages_of_dot (by decide) ⟨_, rfl⟩
  exact ⟨rfl, by decide, rfl, hlist, _, _,
    run_scan_eq_ok.mpr ⟨[], [], [], languageState, hlist, rfl, rfl, rfl⟩, rfl, rfl⟩

end Generate

end CommandDocs
